import Reshape.Json.Writer

namespace Reshape.Filter

inductive Goal where
  | integer
  | float
  | boolean
  deriving DecidableEq

def Goal.phrase : Goal → String
  | .integer => "an integer"
  | .float => "a float"
  | .boolean => "a boolean"

/-- Arguments are counted from one. -/
inductive Failure where
  | missingArgument (position : Nat) (filter : String)
  | notInteger (position : Nat) (filter : String)
  | neverInteger (position : Nat) (filter : String) (got : Json)
  | emptySearch
  | invalidPattern (pattern : String)
  | negativeLength
  | negativeLimit
  | notCountable (value : Json)
  | notConvertible (value : Json) (goal : Goal)
  | notFinite (number : Binary64)
  | outOfRange (number : Binary64)
  | notRoundable (value : Json)
  | noMagnitude (value : Json)
  | invalidJson (text : String)
  | timestampOutOfRange (seconds : Int)
  | dateMismatch (text format : String)
  | notDate (value : Json)
  | invalidDateFormat (format : String)
  /-- A filter that is not built in says why itself. -/
  | custom (text : String)

namespace Failure

/-- Strings in plain double quotes, other values as JSON. -/
def shown : Json → String
  | .string s => "\"" ++ s ++ "\""
  | value => value.write

def plain (number : Binary64) : String := String.ofList number.writePlain

def message : Failure → String
  | .missingArgument n filter => s!"missing argument {n} for '" ++ filter ++ "'"
  | .notInteger n filter => s!"argument {n} for '" ++ filter ++ "' must be an integer"
  | .neverInteger n filter got =>
    s!"argument {n} for '" ++ filter ++ "' must be an integer, got " ++ got.write
  | .emptySearch => "'replace' needs a non-empty search string"
  | .invalidPattern pattern => "invalid regex `" ++ pattern ++ "`"
  | .negativeLength => "'substr' length must not be negative"
  | .negativeLimit => "'limit' must not be negative"
  | .notCountable value => "cannot count " ++ value.write
  | .notConvertible value goal => "cannot convert " ++ shown value ++ " to " ++ goal.phrase
  | .notFinite number => plain number ++ " is not a finite number"
  | .outOfRange number => plain number ++ " is out of range for an integer"
  | .notRoundable value => "cannot round " ++ value.write
  | .noMagnitude value => "cannot take abs of " ++ value.write
  | .invalidJson text => "invalid JSON text \"" ++ text ++ "\""
  | .timestampOutOfRange seconds => s!"timestamp {seconds} out of range"
  | .dateMismatch text format => "\"" ++ text ++ "\" does not match format \"" ++ format ++ "\""
  | .notDate value => "cannot parse " ++ shown value ++ " as a date"
  | .invalidDateFormat format => "invalid date format \"" ++ format ++ "\""
  | .custom text => text

end Failure

end Reshape.Filter

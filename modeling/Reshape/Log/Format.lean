import Reshape.Text.Basic

namespace Reshape.Log

inductive Format where
  | compact
  | full
  | json
  deriving DecidableEq, Inhabited

namespace Format

def names : List (String × Format) := [("compact", .compact), ("full", .full), ("json", .json)]

def ofName? (name : String) : Option Format :=
  names.lookup (String.ofList (Text.lower name.toList))

end Format

end Reshape.Log

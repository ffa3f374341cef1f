import Reshape.Json.Writer
import Reshape.Text.Basic
import Reshape.Yaml.Writer

namespace Reshape

inductive OutputFormat where
  | human
  | json
  | jsonPretty
  | ndjson
  | yaml
  deriving DecidableEq, Inhabited

namespace OutputFormat

def names : List (String × OutputFormat) := [
  ("human", .human),
  ("json", .json),
  ("json-pretty", .jsonPretty),
  ("ndjson", .ndjson),
  ("yaml", .yaml)]

def ofName? (name : String) : Option OutputFormat :=
  (("json_pretty", .jsonPretty) :: names).lookup (String.ofList (Text.asciiLower name.toList))

/-- An array's items one a line, and any other value on one line. -/
def lines : Json → List Char
  | .array items => Text.joinWith ['\n'] (items.map Json.chars)
  | value => value.chars

def render : OutputFormat → Json → String
  | .human, value => value.writePretty
  | .json, value => value.write
  | .jsonPretty, value => value.writePretty
  | .ndjson, value => String.ofList (lines value)
  | .yaml, value => Yaml.write value

end OutputFormat

end Reshape

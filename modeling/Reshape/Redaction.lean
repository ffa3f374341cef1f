import Reshape.Json.Value
import Reshape.Text.Basic

namespace Reshape.Redaction

def mask : Json := .string "***"

/-- One of the given texts occurs in the key, in whatever case. -/
def isSensitive (keys : List String) (key : String) : Bool :=
  keys.any fun k => Text.occursIn (Text.lower k.toList) (Text.lower key.toList)

mutual

/-- The value with all that is under sensitive keys masked, at any depth. -/
def redact (keys : List String) : Json → Json
  | .array items => .array (redactItems keys items)
  | .object members => .object (redactMembers keys members)
  | value => value

def redactItems (keys : List String) : List Json → List Json
  | [] => []
  | item :: items => redact keys item :: redactItems keys items

def redactMembers (keys : List String) : List (String × Json) → List (String × Json)
  | [] => []
  | (key, value) :: members =>
    (key, if isSensitive keys key then mask else redact keys value) :: redactMembers keys members

end

end Reshape.Redaction

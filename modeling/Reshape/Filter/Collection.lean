import Reshape.Filter.Arguments

namespace Reshape.Filter

def separator (arguments : List Json) : List Char := (text? arguments 0).getD [',']

/-- The parts of a text; an empty text has none. -/
def split : Filter := fun value arguments =>
  .ok (match value with
    | .string s =>
      if s.isEmpty then .array []
      else .array ((Text.splitOn (separator arguments) s.toList).map fun part =>
        .string (String.ofList part))
    | _ => value)

def join : Filter := fun value arguments =>
  .ok (match value with
    | .array items => .string (String.ofList (Text.joinWith (separator arguments)
        (items.map rendered)))
    | _ => value)

/-- Takes one item of a list, null where there is none. -/
def pick (choose : List Json → Option Json) : Json → Json
  | .array items => (choose items).getD .null
  | value => value

def count : Filter := fun value _ =>
  match value with
  | .array items => .ok (.ofNat items.length)
  | .object members => .ok (.ofNat members.length)
  | .string s => .ok (.ofNat s.length)
  | .null => .ok (.ofNat 0)
  | _ => .error (.notCountable value)

def collections : List (String × Filter) := [
  ("split", split),
  ("join", join),
  ("first", plain (pick List.head?)),
  ("last", plain (pick List.getLast?)),
  ("count", count)]

end Reshape.Filter

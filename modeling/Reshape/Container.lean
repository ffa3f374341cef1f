import Reshape.Json.Value

namespace Reshape

/-- A readable root: its members by key and its items by position. All that is inside are JSON
values. -/
structure Container where
  key? : String → Option Json
  index? : Nat → Option Json

namespace Container

def ofMembers (members : Json.Members) : Container := ⟨members.get?, fun _ => none⟩

def ofItems (items : List Json) : Container := ⟨fun _ => none, fun n => items[n]?⟩

/-- Looks into an object by key and into an array by position; other values hold nothing. -/
def ofJson : Json → Container
  | .object members => ofMembers members
  | .array items => ofItems items
  | _ => ⟨fun _ => none, fun _ => none⟩

end Container

instance : Coe Json Container := ⟨Container.ofJson⟩

end Reshape

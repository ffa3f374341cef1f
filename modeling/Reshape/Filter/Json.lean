import Reshape.Filter.Reference
import Reshape.Json.Decode

namespace Reshape.Filter.Reference

def toJson (r : Reference) : Json :=
  .object (("name", .string r.name) ::
    (if r.arguments.isEmpty then [] else [("args", .array r.arguments)]))

def ofMembers? (members : Json.Members) : Option Reference := do
  let .string name ← members.get? "name" | none
  match members.get? "args" with
  | none => some ⟨name, []⟩
  | some (.array items) => some ⟨name, items⟩
  | some _ => none

def ofJson : Json → Json.Decoded Reference
  | .string text => (parse text).mapError fun error => .refused error.message
  | .object members => match ofMembers? members with
    | some reference => .ok reference
    | none => .error (.noSpelling "FilterSpecRepr")
  | _ => .error (.noSpelling "FilterSpecRepr")

end Reshape.Filter.Reference

import Reshape.Error
import Reshape.Json.Decode

namespace Reshape.BuildError

def optionJson : Option String → Json
  | some s => .string s
  | none => .null

def toJson : BuildError → Json
  | .malformed message position expression field =>
    .object [("ExpressionSyntax", .object [
      ("message", .string message),
      ("position", .ofNat position),
      ("expression", .string expression),
      ("field", optionJson field)])]
  | .unknownFilter name field =>
    .object [("FilterNotFound", .object [("name", .string name), ("field", optionJson field)])]
  | .invalidReference reference message =>
    .object [("InvalidFilterSpec", .object [
      ("reference", .string reference), ("message", .string message)])]

structure Draft where
  message : Option String := none
  position : Option Nat := none
  expression : Option String := none
  field : Option String := none
  name : Option String := none
  reference : Option String := none

def Draft.put (known : List String) (d : Draft) (key : String) (value : Json) :
    Json.Decoded Draft :=
  if !known.contains key then return d
  else match key with
    | "message" => return { d with message := some (← value.decodeString) }
    | "position" => return { d with position := some (← value.decodeSize) }
    | "expression" => return { d with expression := some (← value.decodeString) }
    | "field" => return { d with field := ← Json.decodeOption Json.decodeString value }
    | "name" => return { d with name := some (← value.decodeString) }
    | "reference" => return { d with reference := some (← value.decodeString) }
    | _ => return d

def need {α : Type} (field : String) : Option α → Json.Decoded α
  | some value => .ok value
  | none => .error (.missing field)

def gather (known : List String) (members : Json.Members) : Json.Decoded Draft :=
  members.foldlM (fun d (key, value) => d.put known key value) {}

inductive Variant where
  | malformed
  | unknownFilter
  | invalidReference

def Variant.names : List (String × Variant) := [
  ("ExpressionSyntax", .malformed),
  ("FilterNotFound", .unknownFilter),
  ("InvalidFilterSpec", .invalidReference)]

def Variant.ofMembers (variant : Variant) (members : Json.Members) : Json.Decoded BuildError :=
  match variant with
  | .malformed => do
    let d ← gather ["message", "position", "expression", "field"] members
    return .malformed (← need "message" d.message) (← need "position" d.position)
      (← need "expression" d.expression) d.field
  | .unknownFilter => do
    let d ← gather ["name", "field"] members
    return .unknownFilter (← need "name" d.name) d.field
  | .invalidReference => do
    let d ← gather ["reference", "message"] members
    return .invalidReference (← need "reference" d.reference) (← need "message" d.message)

def ofJson : Json → Json.Decoded BuildError
  | .string s => do
    let _ ← Json.decodeName.named Variant.names s
    throw .bareVariant
  | .object [(key, value)] => do
    let variant ← Json.decodeName.named Variant.names key
    match value with
    | .object members => variant.ofMembers members
    | _ => throw (.kind value "struct variant")
  | .object members => .error (.value (.object members) "map with a single key")
  | value => .error (.kind value "string or map")

end Reshape.BuildError

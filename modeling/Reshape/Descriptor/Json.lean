import Reshape.Descriptor
import Reshape.Filter.Json

namespace Reshape

def Naming.ofJson (value : Json) : Json.Decoded Naming := Json.decodeName names value

namespace Field

def toJson (field : Field) : Json :=
  .object (("name", .string field.name) ::
    ((field.key.map fun key => ("key", Json.string key)).toList ++
      (field.source.map fun path => ("from", Json.string path)).toList))

def textMember? (members : Json.Members) (key : String) : Option (Option String) :=
  match members.get? key with
  | none | some .null => some none
  | some (.string s) => some (some s)
  | some _ => none

def ofMembers? (members : Json.Members) : Option Field := do
  let .string name ← members.get? "name" | none
  return ⟨name, ← textMember? members "key", ← textMember? members "from"⟩

def ofJson : Json → Json.Decoded Field
  | .string name => .ok ⟨name, none, none⟩
  | .object members => match ofMembers? members with
    | some field => .ok field
    | none => .error (.noSpelling "FieldRepr")
  | _ => .error (.noSpelling "FieldRepr")

end Field

namespace FieldFilters

def referencesJson (references : List Filter.Reference) : Json :=
  .array (references.map Filter.Reference.toJson)

def toJson (filters : FieldFilters) : Json :=
  .object (filters.map fun (field, references) => (field, referencesJson references))

def ofJson (value : Json) : Json.Decoded FieldFilters := do
  let members ← Json.decodeMembers value
  let lists ← members.mapM fun (field, list) => do
    return (field, ← Json.decodeList Filter.Reference.ofJson list)
  return Sorted.insertAll [] lists

end FieldFilters

namespace Descriptor

def unlessEmpty (isEmpty : Bool) (key : String) (value : Json) : Json.Members :=
  if isEmpty then [] else [(key, value)]

def toJson (d : Descriptor) : Json :=
  .object ([
    ("id", .string d.id),
    ("fields", .array (d.fields.map Field.toJson)),
    ("naming", .string d.naming.text)] ++
    unlessEmpty d.template.isEmpty "template" (.object d.template) ++
    unlessEmpty d.fieldFilters.isEmpty "field_filters" d.fieldFilters.toJson ++
    unlessEmpty d.pipeline.isEmpty "pipeline" (FieldFilters.referencesJson d.pipeline))

/-- A descriptor whose id and fields may not have been met yet. -/
structure Draft where
  id : Option String := none
  fields : Option (List Field) := none
  rest : Descriptor := { id := "", fields := [] }

/-- Takes up a member; members of other names mean nothing. -/
def Draft.put (d : Draft) (key : String) (value : Json) : Json.Decoded Draft :=
  match key with
  | "id" => return { d with id := some (← value.decodeString) }
  | "fields" => return { d with fields := some (← value.decodeList Field.ofJson) }
  | "naming" => return { d with rest.naming := ← Naming.ofJson value }
  | "template" => return { d with rest.template := ← value.decodeMembers }
  | "field_filters" => return { d with rest.fieldFilters := ← FieldFilters.ofJson value }
  | "pipeline" =>
    return { d with rest.pipeline := ← value.decodeList Filter.Reference.ofJson }
  | _ => return d

def fieldNames : List String :=
  ["id", "fields", "naming", "template", "field_filters", "pipeline"]

/-- The first member that does not fit is the error; only then missing ones are. -/
def ofJson (value : Json) : Json.Decoded Descriptor := do
  let record ← Json.Record.ofJson "TypeDescriptor" fieldNames value
  let draft ← record.gather {} Draft.put
  match draft.id, draft.fields with
  | none, _ => throw (record.missing "id")
  | _, none => throw (record.missing "fields")
  | some id, some fields =>
    record.close
    return { draft.rest with id, fields }

end Descriptor

end Reshape

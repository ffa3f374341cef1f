import Reshape.Descriptor.Json
import Reshape.Overrides

namespace Reshape.Overrides

def toJson (o : Overrides) : Json :=
  .object [
    ("template", .object o.template),
    ("field_filters", o.fieldFilters.toJson),
    ("pipeline", FieldFilters.referencesJson o.pipeline)]

def put (o : Overrides) (key : String) (value : Json) : Json.Decoded Overrides :=
  match key with
  | "template" => return { o with template := ← value.decodeMembers }
  | "field_filters" => return { o with fieldFilters := ← FieldFilters.ofJson value }
  | "pipeline" => return { o with pipeline := ← value.decodeList Filter.Reference.ofJson }
  | _ => return o

def ofJson (value : Json) : Json.Decoded Overrides := do
  let record ← Json.Record.ofJson "Overrides" ["template", "field_filters", "pipeline"] value
  let o ← record.gather {} put
  record.close
  return o

end Reshape.Overrides

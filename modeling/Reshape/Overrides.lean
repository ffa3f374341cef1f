import Reshape.Descriptor
import Reshape.Digest.Sha256

namespace Reshape

structure Overrides where
  /-- Takes the place of the type's template, unless it is empty. -/
  template : Json.Members := []
  /-- Takes the place of the type's filters, field by field. -/
  fieldFilters : FieldFilters := []
  /-- Runs behind the type's pipeline. -/
  pipeline : List Filter.Reference := []
  deriving Inhabited

namespace Overrides

def isEmpty (o : Overrides) : Bool :=
  o.template.isEmpty && o.fieldFilters.isEmpty && o.pipeline.isEmpty

def setTemplate (o : Overrides) (field : String) (value : Json) : Overrides :=
  { o with template := o.template.insert field value }

def addFieldFilter (o : Overrides) (field : String) (reference : Filter.Reference) : Overrides :=
  { o with fieldFilters := o.fieldFilters.push field reference }

def addPipeline (o : Overrides) (reference : Filter.Reference) : Overrides :=
  { o with pipeline := o.pipeline ++ [reference] }

def canonicalReferences (references : List Filter.Reference) : Json :=
  .array (references.map fun r => .array (.string r.name :: r.arguments))

/-- The value whose text tells overrides apart. Template entries keep their order, since it is the
order of the fields they add. -/
def canonical (o : Overrides) : Json :=
  .object [
    ("template", .object o.template),
    ("field_filters", .object (o.fieldFilters.map fun (field, references) =>
      (field, canonicalReferences references))),
    ("pipeline", canonicalReferences o.pipeline)]

def digest (o : Overrides) : String := Sha256.ofText o.canonical.write

/-- The digest of overrides that say nothing, which is computed once. -/
def emptyDigest : String := digest {}

def fingerprint (o : Overrides) : String := if o.isEmpty then emptyDigest else o.digest

end Overrides

end Reshape

import Reshape.Descriptor

namespace Reshape.Descriptor

structure Builder where
  id : String
  fields : List Field := []
  naming : Naming := .identity
  template : Json.Members := []
  /-- Fields and filter texts, in the order they were given. -/
  fieldFilters : List (String × String) := []
  pipeline : List String := []

namespace Builder

def addField (b : Builder) (field : Field) : Builder := { b with fields := b.fields ++ [field] }

def setTemplate (b : Builder) (field : String) (value : Json) : Builder :=
  { b with template := b.template.insert field value }

def addFieldFilter (b : Builder) (field reference : String) : Builder :=
  { b with fieldFilters := b.fieldFilters ++ [(field, reference)] }

def addPipeline (b : Builder) (reference : String) : Builder :=
  { b with pipeline := b.pipeline ++ [reference] }

def readFieldFilters (texts : List (String × String)) : Except BuildError FieldFilters :=
  texts.foldlM (fun (filters : FieldFilters) (field, text) =>
    (Filter.Reference.parse text).map (filters.push field)) []

/-- Field filters are read first, then the pipeline; then the whole is checked. -/
def build (b : Builder) : Except Error Descriptor := do
  let fieldFilters ← (readFieldFilters b.fieldFilters).mapError .build
  let pipeline ← (b.pipeline.mapM Filter.Reference.parse).mapError .build
  let d : Descriptor := { b with fieldFilters, pipeline }
  d.validate
  return d

end Builder

end Reshape.Descriptor

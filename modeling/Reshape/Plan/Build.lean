import Reshape.Plan
import Reshape.Template.Checked

namespace Reshape.Plan

def effectiveTemplate (d : Descriptor) (o : Overrides) : Json.Members :=
  if o.template.isEmpty then d.template else o.template

def conventionSource (d : Descriptor) (field : Reshape.Field) : Source :=
  .convention (.ofKey (field.conventionKey d.naming))

abbrev Memo := List (String × Template.Expr)

/-- Text is a template, which is read once however many fields share it; any other value stands
for itself. Only what could be read is remembered. -/
def compile (registry : Filter.Registry) (field : String) (memo : Memo) :
    Json → Except BuildError (Template.Expr × Memo)
  | .string text => match memo.lookup text with
    | some e => .ok (e, memo)
    | none => match Template.readWith registry text with
      | .error error => .error (error.forField field)
      | .ok e => .ok (e, (text, e) :: memo)
  | value => .ok (.literal value, memo)

/-- What a field is to be read from: a template value still to be compiled, or a settled source. -/
inductive Origin where
  | template (value : Json)
  | settled (source : Source)

def ownOrigin (d : Descriptor) (template : Json.Members) (field : Reshape.Field) :
    String × Origin :=
  (field.name, match template.get? field.name with
    | some value => .template value
    | none => .settled (conventionSource d field))

def ownOrigins (d : Descriptor) (template : Json.Members) : List (String × Origin) :=
  d.fields.map (ownOrigin d template)

def extraEntries (d : Descriptor) (template : Json.Members) : Json.Members :=
  template.filter fun (key, _) => (d.field? key).isNone

/-- The type's own fields in their order, and behind them those that only the template names. -/
def origins (d : Descriptor) (template : Json.Members) : List (String × Origin) :=
  ownOrigins d template ++
    (extraEntries d template).map fun (key, value) => (key, .template value)

/-- Settles origins in order, up to the first template that cannot be read. -/
def settle (registry : Filter.Registry) (memo : Memo) :
    List (String × Origin) → Except BuildError (List (String × Source))
  | [] => .ok []
  | (name, .settled source) :: rest => (settle registry memo rest).map ((name, source) :: ·)
  | (name, .template value) :: rest => match compile registry name memo value with
    | .error error => .error error
    | .ok (e, memo) => (settle registry memo rest).map ((name, .template e) :: ·)

def declaredSource (d : Descriptor) (field : Reshape.Field) :
    Except BuildError (String × Source) :=
  match field.source with
  | some path =>
    ((Template.readPath path).mapError (BuildError.forField field.name)).map fun p =>
      (field.name, .declared p)
  | none => .ok (field.name, conventionSource d field)

/-- With a template in force, fields that it names are read by it and all others by convention, and
fields that only it names come last. Without one, fields are read from the paths that the type
declares, and else by convention. -/
def sources (registry : Filter.Registry) (d : Descriptor) (template : Json.Members) :
    Except BuildError (List (String × Source)) :=
  if template.isEmpty then d.fields.mapM (declaredSource d)
  else settle registry [] (origins d template)

/-- The type's filters, those of the call in the place of the type's field by field. -/
def mergedFilters (d : Descriptor) (o : Overrides) : FieldFilters :=
  d.fieldFilters.insertAll o.fieldFilters

def bindField (registry : Filter.Registry) (filters : FieldFilters) (entry : String × Source) :
    Except BuildError Field :=
  ((registry.bindAll ((filters.get? entry.1).getD [])).mapError
    (BuildError.forField entry.1)).map fun bound => ⟨entry.1, entry.2, bound⟩

/-- Builds the plan of a type. Faults of sources come first, then those of field filters, then
those of the pipeline. -/
def build (registry : Filter.Registry) (d : Descriptor) (o : Overrides) :
    Except BuildError Plan := do
  let sources ← sources registry d (effectiveTemplate d o)
  let fields ← sources.mapM (bindField registry (mergedFilters d o))
  let pipeline ← registry.bindAll (d.pipeline ++ o.pipeline)
  return ⟨d.id, o.fingerprint, fields, pipeline⟩

end Reshape.Plan

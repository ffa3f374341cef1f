import Reshape.Engine.Switches
import Reshape.Overrides
import Reshape.Pipeline
import Reshape.Template.Eval

namespace Reshape

namespace Plan

inductive Source where
  | template (e : Template.Expr)
  /-- The path that the type declares for the field. -/
  | declared (path : Path)
  | convention (path : Path)

namespace Source

def kind : Source → String
  | .template _ => "template"
  | .declared _ => "declared"
  | .convention _ => "convention"

def text : Source → String
  | .template e => String.ofList e.templateChars
  | .declared path => path.text
  | .convention path => path.text

def evaluate (ctx : Template.Context) (c : Container) : Source → Except Error (Option Json)
  | .template e => e.evaluate ctx c
  | .declared path => .ok (path.resolve c)
  | .convention path => .ok (path.resolve c)

def agrees : Source → Source → Bool
  | .template e, .template f => e.agrees f
  | .declared p, .declared q => p = q
  | .convention p, .convention q => p = q
  | _, _ => false

end Source

structure Field where
  name : String
  source : Source
  /-- The filters of the field, which run before the pipeline. -/
  filters : List Filter.Bound

def Field.listAgrees : List Field → List Field → Bool
  | [], [] => true
  | a :: as, b :: bs =>
    a.name = b.name && a.source.agrees b.source &&
      Filter.Bound.listAgrees a.filters b.filters && listAgrees as bs
  | _, _ => false

end Plan

structure Plan where
  typeId : String
  fingerprint : String
  fields : List Plan.Field
  pipeline : List Filter.Bound

namespace Plan

def field? (plan : Plan) (name : String) : Option Field := plan.fields.find? (·.name == name)

def agrees (a b : Plan) : Bool :=
  a.typeId = b.typeId && a.fingerprint = b.fingerprint && Field.listAgrees a.fields b.fields &&
    Filter.Bound.listAgrees a.pipeline b.pipeline

/-- The value that filters start from; none when the field is left out. -/
def Field.raw? (field : Field) (registry : Filter.Registry) (switches : Switches)
    (c : Container) : Except Error (Option Json) :=
  match field.source.evaluate ⟨field.name, registry, switches.nullFallsBack⟩ c with
  | .error error => .error error
  | .ok (some value) => .ok (some value)
  | .ok none => match switches.absentFields with
    | .null => .ok (some .null)
    | .omit => .ok none

def Field.value? (field : Field) (pipeline : List Filter.Bound) (registry : Filter.Registry)
    (switches : Switches) (c : Container) : Except Error (Option Json) :=
  match field.raw? registry switches c with
  | .error error => .error error
  | .ok none => .ok none
  | .ok (some raw) => (Pipeline.run field.name (field.filters ++ pipeline) raw).map some

/-- The values of fields in order, up to the first error. -/
def runFields (pipeline : List Filter.Bound) (registry : Filter.Registry) (switches : Switches)
    (c : Container) : List Field → Except Error Json.Members
  | [] => .ok []
  | field :: fields => match field.value? pipeline registry switches c with
    | .error error => .error error
    | .ok value =>
      (runFields pipeline registry switches c fields).map fun members =>
        (value.map fun v => (field.name, v)).toList ++ members

/-- Maps a record. There is no result without every field. -/
def run (plan : Plan) (registry : Filter.Registry) (switches : Switches) (c : Container) :
    Except Error Json.Members :=
  runFields plan.pipeline registry switches c plan.fields

end Plan

end Reshape

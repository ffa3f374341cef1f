import Reshape.Log.Event
import Reshape.Plan.Build

namespace Reshape

open Log (Event)

namespace Template.Expr

mutual

/-- The names of the filters that an evaluation runs, in order; one that fails is the last. -/
def filtersRun (ctx : Context) (c : Container) : Expr → List String
  | .literal _ => []
  | .path _ => []
  | .concat parts => partsRun ctx c parts
  | .filter inner name _ => filtersRun ctx c inner ++ match inner.evaluate ctx c with
    | .ok (some _) => if ctx.registry.contains name then [name] else []
    | _ => []
  | .fallback inner other => filtersRun ctx c inner ++ match inner.evaluate ctx c with
    | .ok value => if ctx.needsFallback value then filtersRun ctx c other else []
    | .error _ => []

def partsRun (ctx : Context) (c : Container) : List Expr → List String
  | [] => []
  | part :: parts => filtersRun ctx c part ++ match part.evaluate ctx c with
    | .ok _ => partsRun ctx c parts
    | .error _ => []

end

end Template.Expr

namespace Pipeline

/-- The filters that a run reaches; one that refuses is the last. -/
def reached : List Filter.Bound → Json → List Filter.Bound
  | [], _ => []
  | bound :: rest, value => bound :: match bound.apply value with
    | .ok value => reached rest value
    | .error _ => []

end Pipeline

namespace Plan

def event (level : Log.Level) (message : String) : Event := ⟨.mapping, level, message, none⟩

def Source.events (ctx : Template.Context) (c : Container) : Source → List Event
  | .template e => (e.filtersRun ctx c).map fun _ => event .trace "applying template filter"
  | _ => []

def Field.events (field : Field) (pipeline : List Filter.Bound) (registry : Filter.Registry)
    (switches : Switches) (c : Container) : List Event :=
  field.source.events ⟨field.name, registry, switches.nullFallsBack⟩ c ++
    match field.raw? registry switches c with
    | .ok (some raw) =>
      (Pipeline.reached (field.filters ++ pipeline) raw).map fun _ =>
        event .trace "applying filter"
    | _ => []

def fieldsEvents (pipeline : List Filter.Bound) (registry : Filter.Registry)
    (switches : Switches) (c : Container) : List Field → List Event
  | [] => []
  | field :: fields =>
    field.events pipeline registry switches c ++
      match field.value? pipeline registry switches c with
      | .ok _ => fieldsEvents pipeline registry switches c fields
      | .error _ => []

def runEvents (plan : Plan) (registry : Filter.Registry) (switches : Switches) (c : Container) :
    List Event :=
  fieldsEvents plan.pipeline registry switches c plan.fields

/-- Whether a template brings fields that the type does not have. Those come last, so a fault in
another field hides them. -/
def bringsFields (registry : Filter.Registry) (d : Descriptor) (template : Json.Members) : Bool :=
  !(extraEntries d template).isEmpty &&
    match settle registry [] (ownOrigins d template) with
    | .ok _ => true
    | .error _ => false

/-- Fields that have filters and no place in the plan. -/
def strayFields (d : Descriptor) (o : Overrides) (sources : List (String × Source)) :
    List String :=
  (mergedFilters d o).keys.filter fun field => !sources.any fun source => source.1 = field

def buildEvents (registry : Filter.Registry) (d : Descriptor) (o : Overrides) : List Event :=
  let template := effectiveTemplate d o
  let extra :=
    if bringsFields registry d template then
      [event .debug "template adds fields outside the type"]
    else []
  extra ++ match sources registry d template with
  | .error _ => []
  | .ok sources =>
    ((strayFields d o sources).map fun _ =>
      event .warn "ignoring filters for a field that is not part of the plan") ++
    match build registry d o with
    | .ok _ => [event .debug "built mapping plan"]
    | .error _ => []

end Plan

end Reshape

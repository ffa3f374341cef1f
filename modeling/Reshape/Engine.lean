import Reshape.Filter.Builtin
import Reshape.Plan.Build
import Reshape.Plan.Cache

namespace Reshape

structure Engine where
  types : Sorted Descriptor
  registry : Filter.Registry
  switches : Switches
  cache : Plan.Cache

namespace Engine

structure Parts where
  types : List Descriptor := []
  registry : Filter.Registry := .builtin
  switches : Switches := {}

/-- Adds types, each of which has to be sound and new. -/
def addTypes (types : Sorted Descriptor) : List Descriptor → Except Error (Sorted Descriptor)
  | [] => .ok types
  | d :: ds => match d.validate with
    | .error error => .error error
    | .ok () =>
      if (types.get? d.id).isSome then
        .error (.configuration ("Type '" ++ d.id ++ "' is registered twice"))
      else addTypes (types.insert d.id d) ds

def build (parts : Parts) : Except Error Engine :=
  (addTypes [] parts.types).map fun types =>
    ⟨types, parts.registry, parts.switches, { enabled := parts.switches.cacheEnabled }⟩

def typeIds (engine : Engine) : List String := engine.types.keys

def descriptor? (engine : Engine) (id : String) : Option Descriptor := engine.types.get? id

/-- The plan of a type under overrides, from the cache if it is there. -/
def plan (engine : Engine) (id : String) (o : Overrides) : Except Error Plan × Engine :=
  match engine.descriptor? id with
  | none => (.error (.unknownType id), engine)
  | some d =>
    let (outcome, cache) := engine.cache.getOrBuild ⟨id, o.fingerprint⟩ fun _ =>
      Plan.build engine.registry d o
    (outcome.mapError .build, { engine with cache })

def run (engine : Engine) (plan : Plan) (c : Container) : Except Error Json.Members :=
  plan.run engine.registry engine.switches c

/-- Maps a record to the fields of a type. -/
def resolve (engine : Engine) (id : String) (c : Container) (o : Overrides) :
    Except Error Json.Members × Engine :=
  let (outcome, engine) := engine.plan id o
  (outcome.bind fun plan => engine.run plan c, engine)

/-- Drops the plans of a type, and says how many they were. -/
def invalidate (engine : Engine) (id : String) : Nat × Engine :=
  let (removed, cache) := engine.cache.invalidate id
  (removed, { engine with cache })

def clearCache (engine : Engine) : Engine := { engine with cache := engine.cache.clear }

def stats (engine : Engine) : Plan.Cache.Stats := engine.cache.stats

end Engine

end Reshape

import Reshape.Proofs.Engine.Build
import Reshape.Proofs.Overrides.Canonical
import Reshape.Proofs.Plan.Build
import Reshape.Proofs.Plan.Cache

namespace Reshape.Engine

/-- What is asked of an engine. -/
inductive Call where
  | resolve (id : String) (c : Container) (o : Overrides)
  | plan (id : String) (o : Overrides)
  | invalidate (id : String)
  | clearCache

inductive Reply where
  | fields (result : Except Error Json.Members)
  | plan (result : Except Error Plan)
  | removed (count : Nat)
  | cleared

def Call.overrides : Call → List Overrides
  | .resolve _ _ o => [o]
  | .plan _ o => [o]
  | .invalidate _ => []
  | .clearCache => []

def Reply.isLookup : Reply → Bool
  | .fields _ => true
  | .plan _ => true
  | .removed _ => false
  | .cleared => false

def serve (engine : Engine) : Call → Reply × Engine
  | .resolve id c o => (.fields (engine.resolve id c o).1, (engine.resolve id c o).2)
  | .plan id o => (.plan (engine.plan id o).1, (engine.plan id o).2)
  | .invalidate id => (.removed (engine.invalidate id).1, (engine.invalidate id).2)
  | .clearCache => (.cleared, engine.clearCache)

def after (engine : Engine) : List Call → Engine
  | [] => engine
  | call :: run => (engine.serve call).2.after run

def lookups (engine : Engine) : List Call → List Reply
  | [] => []
  | call :: run =>
    [(engine.serve call).1].filter Reply.isLookup ++ (engine.serve call).2.lookups run

def freshPlan (engine : Engine) (id : String) (o : Overrides) : Except Error Plan :=
  match engine.descriptor? id with
  | none => .error (.unknownType id)
  | some d => (Plan.build engine.registry d o).mapError .build

/-- What a look-up comes to when its plan is built anew and then run. -/
def fresh? (engine : Engine) : Call → Option Reply
  | .resolve id c o => some (.fields ((engine.freshPlan id o).bind fun plan => engine.run plan c))
  | .plan id o => some (.plan (engine.freshPlan id o))
  | .invalidate _ => none
  | .clearCache => none

def overridesOf (run : List Call) : List Overrides := run.flatMap Call.overrides

theorem plan_eq_of_descriptor? {engine : Engine} {id : String} {d : Descriptor}
    (h : engine.descriptor? id = some d) (o : Overrides) :
    engine.plan id o =
      (((engine.cache.getOrBuild ⟨id, o.fingerprint⟩ fun _ =>
          Plan.build engine.registry d o).1).mapError .build,
        { engine with
          cache := (engine.cache.getOrBuild ⟨id, o.fingerprint⟩ fun _ =>
            Plan.build engine.registry d o).2 }) := by
  unfold plan
  rw [h]

theorem plan_eq_of_unknown {engine : Engine} {id : String} (h : engine.descriptor? id = none)
    (o : Overrides) : engine.plan id o = (.error (.unknownType id), engine) := by
  unfold plan
  rw [h]

theorem resolve_eq (engine : Engine) (id : String) (c : Container) (o : Overrides) :
    engine.resolve id c o =
      (((engine.plan id o).1).bind fun plan => (engine.plan id o).2.run plan c,
        (engine.plan id o).2) := rfl

/-- Calls change nothing but the cache, and they leave it on or off as it was. -/
theorem exists_cache_plan (engine : Engine) (id : String) (o : Overrides) :
    ∃ cache : Plan.Cache, cache.enabled = engine.cache.enabled ∧
      (engine.plan id o).2 = { engine with cache } := by
  cases h : engine.descriptor? id with
  | none => exact ⟨engine.cache, rfl, by rw [plan_eq_of_unknown h]⟩
  | some d => exact ⟨_, Plan.Cache.getOrBuild_enabled, by rw [plan_eq_of_descriptor? h]⟩

theorem exists_cache_serve (engine : Engine) (call : Call) :
    ∃ cache : Plan.Cache, cache.enabled = engine.cache.enabled ∧
      (engine.serve call).2 = { engine with cache } := by
  cases call with
  | resolve id c o => exact exists_cache_plan engine id o
  | plan id o => exact exists_cache_plan engine id o
  | invalidate id => exact ⟨_, Plan.Cache.invalidate_enabled id, rfl⟩
  | clearCache => exact ⟨_, Plan.Cache.clear_enabled, rfl⟩

theorem overridesOf_append (run others : List Call) :
    overridesOf (run ++ others) = overridesOf run ++ overridesOf others := List.flatMap_append

theorem after_append (engine : Engine) (run others : List Call) :
    engine.after (run ++ others) = (engine.after run).after others := by
  induction run generalizing engine with
  | nil => rfl
  | cons call run ih => exact ih (engine.serve call).2

theorem fresh?_serve (engine : Engine) (call : Call) :
    (engine.serve call).2.fresh? = engine.fresh? := by
  obtain ⟨cache, -, h⟩ := exists_cache_serve engine call
  rw [h]
  funext other
  cases other <;> rfl

end Reshape.Engine

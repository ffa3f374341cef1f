import Reshape.Engine
import Reshape.Plan.Trace
import Reshape.Redaction

namespace Reshape.Engine

open Log (Event)

/-- Maps records in order, up to the first that fails, which is told by its number; `index` is the
number of the first one. -/
def resolveFrom (engine : Engine) (id : String) (o : Overrides) (index : Nat) :
    List Json → Except (Nat × Error) (List Json × Engine)
  | [] => .ok ([], engine)
  | record :: records => match engine.resolve id (.ofJson record) o with
    | (.error error, _) => .error (index, error)
    | (.ok fields, engine) => match resolveFrom engine id o (index + 1) records with
      | .error failure => .error failure
      | .ok (mapped, engine) => .ok (.object fields :: mapped, engine)

def planEvents (engine : Engine) (id : String) (o : Overrides) : List Event :=
  match engine.descriptor? id with
  | none => []
  | some d => match engine.cache.find? ⟨id, o.fingerprint⟩ with
    | some _ => []
    | none => Plan.event .debug "plan cache miss" :: Plan.buildEvents engine.registry d o

def resolveEvents (engine : Engine) (id : String) (o : Overrides) (c : Container) : List Event :=
  engine.planEvents id o ++ match engine.plan id o with
  | (.ok plan, engine) => plan.runEvents engine.registry engine.switches c
  | (.error _, _) => []

def mappedEvent (keys : List String) (fields : Json.Members) : Event :=
  ⟨.command, .trace, "Mapped record", some (Redaction.redact keys (.object fields)).write⟩

def batchEvents (engine : Engine) (id : String) (o : Overrides) (keys : List String) :
    List Json → List Event
  | [] => []
  | record :: records =>
    engine.resolveEvents id o (.ofJson record) ++
      match engine.resolve id (.ofJson record) o with
      | (.error _, _) => []
      | (.ok fields, engine) => mappedEvent keys fields :: batchEvents engine id o keys records

end Reshape.Engine

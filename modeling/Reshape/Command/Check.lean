import Reshape.Command.Inputs

namespace Reshape.Command

def checkTypes (engine : Engine) : List String → List Listing.Check × List Log.Event
  | [] => ([], [])
  | id :: ids =>
    let events := engine.planEvents id {}
    let (outcome, engine) := engine.plan id {}
    let (checks, later) := checkTypes engine ids
    match outcome with
    | .ok plan => (⟨id, some plan.fields.length, none⟩ :: checks, events ++ later)
    | .error error =>
      (⟨id, none, some error.message⟩ :: checks,
        events ++ ⟨.command, .warn, "Type failed to build", none⟩ :: later)

def checkedTypes (engine : Engine) : Option String → Except Problem (List String)
  | none => .ok engine.typeIds
  | some id => match engine.descriptor? id with
    | some _ => .ok [id]
    | none => .error (.core (.unknownType id))

def failures (checks : List Listing.Check) : Nat := checks.countP fun check => !check.ok

def check (catalog type : Option String) : Action Unit := Action.timed do
  let scene ← Action.scene
  let file ← Action.ofExcept (catalogFile catalog scene.settings)
  Action.tell (·.info ("Checking catalog: " ++ file))
  let engine ← loadEngine file scene.settings.engine
  let ids ← Action.ofExcept (checkedTypes engine type)
  let (checks, events) := checkTypes engine ids
  Action.logAll events
  if !scene.output.isHuman then Action.log .trace "Writing data"
  Action.tell (·.checks checks)
  Action.log .info "Check finished"
  if failures checks = 0 then
    Action.tell (·.success s!"✓ {checks.length} type(s) built")
  else Action.fail (.checkFailed (failures checks) checks.length)

end Reshape.Command

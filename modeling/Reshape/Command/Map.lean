import Reshape.Command.Inputs

namespace Reshape.Command

open Arguments (MapArguments)
def mapSwitches (a : MapArguments) (switches : Switches) : Switches :=
  { switches with
    absentFields := if a.omitAbsent then .omit else switches.absentFields
    nullFallsBack := a.nullDefault || switches.nullFallsBack }

def mapRecords (engine : Engine) (id : String) (o : Overrides) (records : List Json) :
    Action (List Json × Engine) := do
  let scene ← Action.scene
  Action.logAll (engine.batchEvents id o scene.settings.log.redactKeys records)
  Action.ofExcept ((engine.resolveFrom id o 0 records).mapError fun (index, error) =>
    .record index error)

def fileText (name : String) (value : Json) : String :=
  (if FileName.hasExtension name ["yaml", "yml"] then Yaml.write value
  else if FileName.hasExtension name ["ndjson", "jsonl"] then OutputFormat.ndjson.render value
  else value.writePretty) ++ "\n"

/-- Saves what records were mapped to, or shows it. Lines of JSON go out as they came in. -/
def deliver (file : Option String) (shape : Records.Shape) (value : Json) : Action Unit := do
  let scene ← Action.scene
  match file with
  | some name =>
    Action.save name (fileText name value)
    Action.tell (·.success ("✓ Output saved to " ++ name))
  | none =>
    if shape = .lines && scene.output.format = .json then
      Action.print (Output.line (OutputFormat.ndjson.render value))
    else Action.tellData value

/-- Shows how often the plan was found in the cache; programs find that apart from the data. -/
def showStats (s : Plan.Cache.Stats) : Action Unit := do
  let scene ← Action.scene
  Action.log .info "Plan cache statistics"
  if scene.output.isHuman then
    Action.tell (·.heading "Plan Cache")
    Action.tell (·.stats s)
  else Action.printError (OutputFormat.json.render (Listing.statsJson s))

def map (a : MapArguments) : Action Unit := Action.timed do
  let scene ← Action.scene
  let file ← Action.ofExcept (catalogFile a.catalog scene.settings)
  let engine ← loadEngine file (mapSwitches a scene.settings.engine)
  let o ← readOverrides a.overrides
  let (_, engine) ← planOf engine a.type o
  Action.log .info "Plan ready"
  let text ← readInput a.input
  let records ← readRecords (.detect a.input a.ndjson) text
  Action.log .info "Mapping records"
  let (mapped, engine) ← mapRecords engine a.type o records.items
  deliver a.saveTo records.shape (Records.arrange records.shape mapped)
  if a.stats then showStats engine.stats

end Reshape.Command

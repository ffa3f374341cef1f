import Reshape.Arguments
import Reshape.Catalog
import Reshape.Command.Action
import Reshape.Overrides
import Reshape.Records

namespace Reshape.Command

open Arguments (OverrideArguments)
def catalogFile (name : Option String) (settings : Settings) : Except Problem String :=
  match name.or settings.catalog with
  | some file => .ok file
  | none => .error (.arguments .noCatalog)

def loadEngine (file : String) (switches : Switches) : Action Engine := do
  let scene ← Action.scene
  if !scene.files.has file then Action.fail (.fileNotFound file)
  else
    let types ← Action.ofCore (Catalog.load scene.files file)
    Action.logAll [Plan.event .debug "loaded type catalog"]
    Action.log .debug "Catalog loaded"
    let engine ← Action.ofCore (Engine.build { types, switches })
    Action.logAll [Plan.event .debug "built mapping engine"]
    return engine

def planOf (engine : Engine) (id : String) (o : Overrides) : Action (Plan × Engine) := do
  Action.logAll (engine.planEvents id o)
  let (plan, engine) := engine.plan id o
  return (← Action.ofCore plan, engine)

def filterReference (text : String) : Except Problem Filter.Reference :=
  (Filter.Reference.parse text).mapError fun error => .arguments (.invalidFilter text error)

/-- Reads `FIELD=FILTER`; blanks around either part mean nothing. -/
def fieldFilter (text : String) : Except Problem (String × Filter.Reference) :=
  match Text.splitAt? '=' text.toList with
  | none => .error (.arguments (.notFieldFilter text))
  | some (field, reference) =>
    let field := Text.trim field
    if field.isEmpty then .error (.arguments (.emptyFieldName text))
    else
      (filterReference (String.ofList (Text.trim reference))).map fun r =>
        (String.ofList field, r)

def readTemplate (files : Files) (file : String) : Except Problem Json.Members :=
  match files.find? file with
  | none => .error (.fileNotFound file)
  | some (.text content) =>
    let isYaml := FileName.hasExtension file ["yaml", "yml"]
    match if isYaml then Yaml.readJson? content else Json.read? content with
    | none => .error (.invalidFormat file (if isYaml then "YAML" else "JSON"))
    | some (.object template) => .ok template
    | some _ => .error (.invalidFormat file "an object of field -> expression")
  | some _ => .error .io

def addFilters (a : OverrideArguments) (o : Overrides) : Except Problem Overrides := do
  let fields ← a.fieldFilters.mapM fieldFilter
  let pipeline ← a.pipeline.mapM filterReference
  let o := fields.foldl (fun o entry => o.addFieldFilter entry.1 entry.2) o
  return pipeline.foldl Overrides.addPipeline o

def readOverrides (a : OverrideArguments) : Action Overrides := do
  let scene ← Action.scene
  match a.template with
  | none => Action.ofExcept (addFilters a {})
  | some file =>
    let template ← Action.ofExcept (readTemplate scene.files file)
    Action.log .debug "Template loaded"
    Action.ofExcept (addFilters a { template })

/-- The text of the input: a file's, or standard input where no file or a dash is named. -/
def readInput (file : Option String) : Action String := do
  let scene ← Action.scene
  match file.filter fun name => !FileName.isDash name with
  | none => return scene.input
  | some name => match scene.files.find? name with
    | none => Action.fail (.fileNotFound name)
    | some (.text content) => return content
    | some _ => Action.fail .io

def readRecords (form : Records.Notation) (text : String) : Action Records := do
  if form = .json && (Records.readJson text).1 then
    Action.log .debug "Input is not one JSON document, reading as NDJSON"
  Action.ofExcept (Records.read form text)

end Reshape.Command

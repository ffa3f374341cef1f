import Reshape.Command
import Reshape.Settings.Reader

namespace Reshape

namespace Arguments

def versionNumber : String := "0.1.0"

def usage : String :=
  "Usage: dtomap [OPTIONS] <COMMAND>\n\nCommands: " ++
    ", ".intercalate (Level.program.commands.map Level.name) ++ "\n"

namespace Refusal

/-- Whether the command line asked for the text that it gets. -/
def isAnswer : Refusal → Bool
  | .help => true
  | .version _ => true
  | _ => false

def message : Refusal → String
  | .missingArgument => "a required argument is missing"
  | .unknownArgument => "unexpected argument"
  | .invalidValue => "invalid or missing value"
  | .unwantedValue => "unexpected value for a flag"
  | .unknownCommand => "unrecognized subcommand"
  | .missingCommand => "a subcommand is required"
  | .conflict => "an argument cannot be used here"
  | .help => ""
  | .version _ => ""
  | .helpInstead => "no arguments"

def text : Refusal → String
  | .version names => "-".intercalate names ++ " " ++ versionNumber ++ "\n"
  | .help => usage
  | .helpInstead => usage
  | refusal => "error: " ++ refusal.message ++ "\n\n" ++ usage

def exitCode (refusal : Refusal) : Nat := if refusal.isAnswer then 0 else 2

end Refusal

end Arguments

namespace Program

structure Request where
  arguments : List String
  environment : Arguments.Environment := []
  files : Files := {}
  input : String := ""
  terminal : Bool := false

inductive Stop where
  | refused (refusal : Arguments.Refusal)
  | failed (problem : Problem)

structure Run where
  outcome : Except Stop Unit
  effects : Effects := {}
  log : Option (Log × List Log.Event) := none

def settingsDirectory (environment : Arguments.Environment) : Option String :=
  match (environment.lookup "XDG_CONFIG_HOME").filter fun d => d.toList.head? = some '/' with
  | some directory => some directory
  | none => ((environment.lookup "HOME").filter fun home => !home.isEmpty).map fun home =>
      FileName.join home ".config"

/-- Settings come first, then what the command line says, then the environment. -/
def logOf (a : Arguments) (settings : Settings) (environment : Arguments.Environment) : Log :=
  (((Log.ofSettings settings.log).withVerbosity a.verbosity).withEnvironment
    environment).quieted a.quiet

def execute (a : Arguments) (settings : Settings) (request : Request) :
    Except Problem Unit × Effects :=
  let scene : Scene := {
    files := request.files
    input := request.input
    directory := settingsDirectory request.environment
    settings
    output := a.outputOf settings request.terminal }
  let action : Action Unit := Action.timed do
    Action.log .info "Executing command"
    Command.run a.command
  action scene

/-- A run that has its settings. Without a log that can be opened it goes on without one. -/
def runWith (a : Arguments) (settings : Settings) (request : Request) : Run :=
  let log := logOf a settings request.environment
  let (outcome, effects) := execute a settings request
  let outcome := outcome.mapError Stop.failed
  match log.openFilter with
  | .ok filter =>
    ⟨outcome, effects, some (log, (Log.opened :: effects.events).filter filter.shows)⟩
  | .error problem =>
    let warning : Effects :=
      { errors := "Failed to initialize logging: " ++ problem.message ++ "\n" }
    ⟨outcome, warning ++ effects, none⟩

def run (request : Request) : Run :=
  match Arguments.parse request.environment request.arguments with
  | .error refusal => { outcome := .error (.refused refusal) }
  | .ok a =>
    match Settings.load request.files (settingsDirectory request.environment) a.settingsFile with
    | .error problem => { outcome := .error (.failed problem) }
    | .ok settings => runWith a settings request

namespace Run

def exitCode (r : Run) : Nat :=
  match r.outcome with
  | .ok () => 0
  | .error (.refused refusal) => refusal.exitCode
  | .error (.failed problem) => problem.exitCode

def output (r : Run) : String :=
  match r.outcome with
  | .error (.refused refusal) => if refusal.isAnswer then refusal.text else ""
  | _ => r.effects.output

def report (color : Bool) (problem : Problem) : String :=
  problem.report color ++ "\n" ++
    if problem.pointsToHelp then "\nFor more information, try '--help'\n" else ""

def errors (r : Run) (terminal : Bool) : String :=
  match r.outcome with
  | .ok () => r.effects.errors
  | .error (.refused refusal) => if refusal.isAnswer then "" else refusal.text
  | .error (.failed problem) => r.effects.errors ++ report terminal problem

end Run

end Program

end Reshape

import Reshape.Command.Inputs
import Reshape.Settings.Reader

namespace Reshape.Command

open Arguments (OverrideArguments)
def showPlan (catalog : Option String) (type : String) (a : OverrideArguments) :
    Action Unit := do
  let scene ← Action.scene
  let file ← Action.ofExcept (catalogFile catalog scene.settings)
  let engine ← loadEngine file scene.settings.engine
  let o ← readOverrides a
  let (plan, _) ← planOf engine type o
  Action.tell (·.plan plan)

def filterLine (name : String) : String := Output.line ("  " ++ name)

def showFilters : Action Unit := do
  let scene ← Action.scene
  let names := Filter.Registry.builtin.names
  if scene.output.isHuman then
    Action.tell (·.heading s!"Filters ({names.length})")
    Action.print (String.join (names.map filterLine))
  else Action.tellData (.strings names)

def newSettingsFile (user : Bool) (directory : Option String) : Except Problem String :=
  if !user then .ok ".dtomap.toml"
  else match directory with
    | some directory => .ok (Settings.userFile directory)
    | none => .error (.settings .noUserDirectory)

/-- Saves the settings that hold where nothing is set. A file that is there stays unless `force` is
set. -/
def initSettings (user force : Bool) : Action Unit := do
  let scene ← Action.scene
  let file ← Action.ofExcept (newSettingsFile user scene.directory)
  if scene.files.has file && !force then
    Action.tell (·.warning
      ("Config already exists at " ++ file ++ " (use --force to overwrite)"))
  else
    Action.saveDeep file (({} : Settings).write .toml)
    Action.tell (·.success ("✓ Created config at " ++ file))

def showSettings (form : Settings.Notation) : Action Unit := do
  let scene ← Action.scene
  Action.tell (·.debug (match scene.settings.source with
    | some file => "Loaded from " ++ file
    | none => "No config file found, showing defaults"))
  Action.print (Output.trimmedLine (scene.settings.write form))

def showSetting (key : String) : Action Unit := do
  let scene ← Action.scene
  let text ← Action.ofExcept (scene.settings.get key)
  Action.print (Output.line text)

def completionScript (shell : String) : String :=
  let top := Arguments.Level.program
  let words := " ".intercalate (top.commands.map (·.name))
  if shell = "fish" then "complete -c " ++ top.name ++ " -f -a '" ++ words ++ "'"
  else if shell = "zsh" then "#compdef " ++ top.name ++ "\ncompadd " ++ words
  else if shell = "power-shell" then
    "Register-ArgumentCompleter -Native -CommandName " ++ top.name ++
      " -ScriptBlock \x7b '" ++ words ++ "' -split ' ' \x7d"
  else if shell = "elvish" then
    "set edit:completion:arg-completer[" ++ top.name ++ "] = \x7b|@a| put " ++ words ++
      " \x7d"
  else "complete -W '" ++ words ++ "' " ++ top.name

def showCompletions (shell : String) : Action Unit :=
  Action.print (Output.line (completionScript shell))

end Reshape.Command

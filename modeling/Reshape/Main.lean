import Reshape.Log.Line
import Reshape.Program

namespace Reshape.Main

open Reshape

def entryOf (name : String) : IO (Option Files.Entry) := do
  try
    return some (.text (← IO.FS.readFile name))
  catch
    | .noFileOrDirectory .. => return none
    | .userError _ => return some .other
    | _ => return some .directory

def nameOf (place : List String) : String :=
  match place with
  | "/" :: rest => "/" ++ "/".intercalate rest
  | _ => "/".intercalate place

def addPlace (files : Files) (place : List String) : IO Files := do
  match ← entryOf (nameOf place) with
  | some entry => return { files with entries := (place, entry) :: files.entries }
  | none => return files

def addFile (files : Files) (name : String) : IO Files :=
  (files.way name ++ [files.place name]).foldlM addPlace files

def environment : IO Arguments.Environment := do
  let mut found : Arguments.Environment := []
  for name in ["HOME", "XDG_CONFIG_HOME", "DTOMAP_CONFIG", "DTOMAP_LOG_FILE",
      "DTOMAP_LOG_FORMAT", "RUST_LOG"] do
    match ← IO.getEnv name with
    | some value => found := (name, value) :: found
    | none => pure ()
  return found

partial def readAll (stream : IO.FS.Stream) (text : String) : IO String := do
  let line ← stream.getLine
  if line.isEmpty then return text else readAll stream (text ++ line)

def settingsFiles (request : Program.Request) (a : Arguments) : List String :=
  a.settingsFile.toList ++ Settings.projectFiles ++
    ((Program.settingsDirectory request.environment).map Settings.userFile).toList

def commandFiles (settings : Settings) : Arguments.Command → List String
  | .map a =>
    (a.catalog.or settings.catalog).toList ++ a.overrides.template.toList ++ a.input.toList ++
      a.saveTo.toList
  | .check catalog _ => (catalog.or settings.catalog).toList
  | .plan catalog _ o => (catalog.or settings.catalog).toList ++ o.template.toList
  | .initSettings false _ => [".dtomap.toml"]
  | _ => []

def readsInput : Arguments.Command → Bool
  | .map a => a.input.all FileName.isDash
  | _ => false

/-- Adds to a request the files and the input that its command looks at. -/
def gather (request : Program.Request) : IO Program.Request := do
  match Arguments.parse request.environment request.arguments with
  | .error _ => return request
  | .ok a =>
    let files ← (settingsFiles request a).foldlM addFile request.files
    let directory := Program.settingsDirectory request.environment
    match Settings.load files directory a.settingsFile with
    | .error _ => return { request with files }
    | .ok settings =>
      let files ← (commandFiles settings a.command).foldlM addFile files
      let input ← if readsInput a.command then readAll (← IO.getStdin) "" else pure ""
      return { request with files, input }

def makeDirectory (name : String) : IO Unit := do
  match (name.splitOn "/").dropLast with
  | [] => pure ()
  | parts => IO.FS.createDirAll ("/".intercalate parts)

def saveFile (name content : String) : IO Unit := do
  makeDirectory name
  IO.FS.writeFile name content

def writeLog (log : Log) (events : List Log.Event) : IO Unit := do
  let text := String.join (events.map fun e => e.line log.format)
  match log.file with
  | none => IO.eprint text
  | some file =>
    makeDirectory file
    let handle ← IO.FS.Handle.mk file .append
    handle.putStr text

end Reshape.Main

open Reshape in
def main (arguments : List String) : IO UInt32 := do
  let terminal ← (← IO.getStdout).isTty
  let environment ← Main.environment
  let request ← Main.gather { arguments, environment, terminal }
  let run := Program.run request
  for (name, content) in run.effects.saved do Main.saveFile name content
  match run.log with
  | some (log, events) => Main.writeLog log events
  | none => pure ()
  IO.print run.output
  IO.eprint (run.errors terminal)
  return run.exitCode.toUInt32

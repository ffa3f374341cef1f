import Reshape.Engine.Batch
import Reshape.Files
import Reshape.Log
import Reshape.Output

namespace Reshape

structure Scene where
  files : Files
  input : String := ""
  directory : Option String := none
  settings : Settings := {}
  output : Output

/-- What a command does, each part in the order in which it is done. -/
structure Effects where
  output : String := ""
  errors : String := ""
  saved : List (String × String) := []
  events : List Log.Event := []
  deriving Inhabited

namespace Effects

def append (a b : Effects) : Effects :=
  ⟨a.output ++ b.output, a.errors ++ b.errors, a.saved ++ b.saved, a.events ++ b.events⟩

instance : Append Effects := ⟨append⟩

end Effects

/-- What an action comes to in a scene: a value or the problem that ended it, and all that was done
up to then. -/
def Action (α : Type) : Type := Scene → Except Problem α × Effects

namespace Action

variable {α β : Type}

def pure (a : α) : Action α := fun _ => (.ok a, {})

def bind (x : Action α) (f : α → Action β) : Action β := fun scene =>
  match x scene with
  | (.error problem, done) => (.error problem, done)
  | (.ok a, done) =>
    let (outcome, more) := f a scene
    (outcome, done ++ more)

instance : Monad Action where
  pure := Action.pure
  bind := Action.bind

def scene : Action Scene := fun scene => (.ok scene, {})

def fail (problem : Problem) : Action α := fun _ => (.error problem, {})

def ofExcept (x : Except Problem α) : Action α := fun _ => (x, {})

def ofCore (x : Except Error α) : Action α := ofExcept (x.mapError .core)

def print (text : String) : Action Unit := fun _ => (.ok (), { output := text })

def printError (text : String) : Action Unit := fun _ => (.ok (), { errors := text ++ "\n" })

def logAll (events : List Log.Event) : Action Unit := fun _ => (.ok (), { events })

def log (level : Log.Level) (message : String) : Action Unit :=
  logAll [⟨.command, level, message, none⟩]

def tell (text : Output → String) : Action Unit := do print (text (← scene).output)

def tellData (value : Json) : Action Unit := do
  log .trace "Writing data"
  tell (·.data value)

def save (name content : String) : Action Unit := fun scene =>
  if scene.files.canSave name then (.ok (), { saved := [(name, content)] })
  else (.error .io, {})

def saveDeep (name content : String) : Action Unit := fun scene =>
  if scene.files.canMake name then (.ok (), { saved := [(name, content)] })
  else (.error .io, {})

/-- Notes that an action is over, however it ended. -/
def timed (x : Action α) : Action α := fun scene =>
  let (outcome, done) := x scene
  (outcome, done ++ { events := [⟨.command, .debug, "Operation completed", none⟩] })

end Action

end Reshape

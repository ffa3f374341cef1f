import Reshape.Arguments.Grammar

namespace Reshape.Arguments

/-- Why a command line is not carried out. -/
inductive Refusal where
  | missingArgument
  | unknownArgument
  /-- A value that its parameter does not take, or none where there has to be one. -/
  | invalidValue
  | unwantedValue
  | unknownCommand
  | missingCommand
  | conflict
  | help
  | version (names : List String)
  /-- Help in place of a command, when there are no arguments at all. -/
  | helpInstead
  deriving DecidableEq

abbrev Values := List (String × List String)

/-- The values given so far at a level. -/
structure Draft where
  values : Values := []
  /-- A parameter that has been met and its value, if that has been met too. -/
  pending : Option (Parameter × Option String) := none
  /-- How many arguments were taken by their place. -/
  placed : Nat := 0
  /-- Whether all that follows is taken by its place. -/
  trailing : Bool := false

namespace Draft

def has (draft : Draft) (name : String) : Bool := (draft.values.lookup name).isSome

def add (draft : Draft) (name value : String) : Draft :=
  let old := (draft.values.lookup name).getD []
  { draft with values := (name, old ++ [value]) :: draft.values.filter fun v => v.1 ≠ name }

def take (draft : Draft) (p : Parameter) (value : String) : Except Refusal Draft :=
  if !p.repeats && draft.has p.name then .error .conflict
  else if p.accepts value then .ok (draft.add p.name value)
  else .error .invalidValue

/-- Settles what is pending. A value is looked at when the next parameter comes or the level ends,
so that faults show in that order. -/
def settle (draft : Draft) : Except Refusal Draft :=
  match draft.pending with
  | none => .ok draft
  | some (_, none) => .error .invalidValue
  | some (p, some value) => { draft with pending := none }.take p value

def takeFlag (draft : Draft) (names : List String) (p : Parameter) : Except Refusal Draft := do
  let draft ← draft.settle
  match p.kind with
  | .help => throw .help
  | .version => throw (.version names)
  | _ => draft.take p ""

def takeValue (draft : Draft) (p : Parameter) (attached : Option String) :
    Except Refusal Draft := do
  let draft ← draft.settle
  match attached with
  | some value => draft.take p value
  | none => return { draft with pending := some (p, none) }

def awaits (draft : Draft) : Bool :=
  match draft.pending with
  | some (_, none) => true
  | _ => false

def answer (draft : Draft) (value : String) : Draft :=
  match draft.pending with
  | some (p, none) => { draft with pending := some (p, some value) }
  | _ => draft

end Draft

/-- The names of a level and those it is in, outermost first. -/
abbrev Names := List String

def takeNamed (level : Level) (names : Names) (draft : Draft) (text : List Char) :
    Except Refusal Draft :=
  let (name, attached) := match Text.splitAt? '=' text with
    | some (name, value) => (name, some (String.ofList value))
    | none => (text, none)
  match level.named? (String.ofList name) with
  | none => .error .unknownArgument
  | some p =>
    if p.takesValue then draft.takeValue p attached
    else if attached.isSome then .error .unwantedValue
    else draft.takeFlag names p

/-- Takes up parameters by their letters. What follows the letter of a parameter with a value is
that value. -/
def takeLettered (level : Level) (names : Names) (draft : Draft) :
    List Char → Except Refusal Draft
  | [] => .ok draft
  | c :: rest => match level.lettered? c with
    | none => .error .unknownArgument
    | some p =>
      if p.takesValue then
        draft.takeValue p (match rest with
          | [] => none
          | '=' :: value => some (String.ofList value)
          | value => some (String.ofList value))
      else match draft.takeFlag names p with
        | .error refusal => .error refusal
        | .ok draft => takeLettered level names draft rest

def takePlaced (level : Level) (draft : Draft) (text : String) : Except Refusal Draft := do
  let settled ← draft.settle
  match level.place?, draft.placed with
  | some p, 0 => return { settled with pending := some (p, some text), placed := 1 }
  | _, _ =>
    if level.commands.isEmpty then throw .unknownArgument
    else if draft.trailing && (level.command? text).isSome then throw .unknownArgument
    else throw .unknownCommand

def explain (level : Level) : List String → Refusal
  | [] => .help
  | word :: words => match level.command? word with
    | some inner => explain inner words
    | none => .unknownCommand

abbrev Environment := List (String × String)

/-- Takes up the settings file that the environment names, if none has been given. -/
def withEnvironment (environment : Environment) (draft : Draft) : Except Refusal Draft :=
  match environment.lookup "DTOMAP_CONFIG" with
  | none => .ok draft
  | some file =>
    if draft.has "config" then .ok draft
    else if file.isEmpty then .error .invalidValue
    else .ok draft

def check (level : Level) (environment : Environment) (inner : Bool) (draft : Draft) :
    Except Refusal Values :=
  -- what the environment gives counts as an argument here
  let given := !draft.values.isEmpty || (environment.lookup "DTOMAP_CONFIG").isSome
  if !inner && !level.commands.isEmpty then
    .error (if given then .missingCommand else .helpInstead)
  else if draft.has "quiet" && draft.has "verbose" then .error .conflict
  else if level.required.all draft.has then .ok draft.values
  else .error .missingArgument

def finish (level : Level) (environment : Environment) (inner : Bool) (draft : Draft) :
    Except Refusal Values := do
  check level environment inner (← withEnvironment environment (← draft.settle))

def takeArgument (level : Level) (names : Names) (draft : Draft) (text : String) :
    Except Refusal Draft :=
  if draft.trailing then takePlaced level draft text
  else match text.toList with
    | ['-', '-'] => .ok { draft with trailing := true }
    | '-' :: '-' :: rest => takeNamed level names draft rest
    | '-' :: c :: rest => takeLettered level names draft (c :: rest)
    | _ => if draft.awaits then .ok (draft.answer text) else takePlaced level draft text

/-- A level and the values of its parameters, with those of the command inside it behind. -/
abbrev Reading := List (Level × Values)

/-- Reads the arguments of a level. The command inside it is read and checked first. -/
def readLevel (environment : Environment) (level : Level) (names : Names) (draft : Draft) :
    List String → Except Refusal Reading
  | [] => (finish level environment false draft).map fun values => [(level, values)]
  | text :: rest =>
    -- a value that is awaited may be spelled like a command
    match if draft.trailing || draft.awaits then none else level.command? text with
    | some .help => .error (explain level rest)
    | some inner => do
      let reading ← readLevel environment inner (names ++ [inner.name]) {} rest
      let values ← finish level environment true draft
      return (level, values) :: reading
    | none => do readLevel environment level names (← takeArgument level names draft text) rest

def read (environment : Environment) (arguments : List String) : Except Refusal Reading :=
  readLevel environment .program [Level.program.name] {} arguments

end Reshape.Arguments

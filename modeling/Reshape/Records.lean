import Reshape.FileName
import Reshape.Json.Reader
import Reshape.Problem
import Reshape.Yaml.Json

namespace Reshape

namespace Records

inductive Shape where
  | single
  | array
  | lines
  deriving DecidableEq

inductive Notation where
  | json
  | yaml
  | ndjson
  deriving DecidableEq

end Records

structure Records where
  shape : Records.Shape
  items : List Json

namespace Records

/-- The notation that a file is read in: one record a line if that is asked for, and else what the
extension says. -/
def Notation.detect (file : Option String) (ndjson : Bool) : Notation :=
  if ndjson then .ndjson
  else match file with
    | none => .json
    | some name =>
      if FileName.hasExtension name ["yaml", "yml"] then .yaml
      else if FileName.hasExtension name ["ndjson", "jsonl"] then .ndjson
      else .json

/-- The values of lines, the first of which has the given number. Blank lines hold none. -/
def valuesFrom (number : Nat) : List (List Char) → Except Problem (List Json)
  | [] => .ok []
  | line :: lines =>
    if (Text.trim line).isEmpty then valuesFrom (number + 1) lines
    else match Json.read? (String.ofList line) with
      | none => .error (.badLine number)
      | some value => (valuesFrom (number + 1) lines).map (value :: ·)

def readLines (text : String) : Except Problem Records :=
  (valuesFrom 1 (Text.lines text.toList)).map (⟨.lines, ·⟩)

def ofDocument : Json → Records
  | .array items => ⟨.array, items⟩
  | record => ⟨.single, [record]⟩

/-- Whether a text that is no JSON document may be one on each line. -/
def hasLines (text : String) : Bool := 1 < (Text.lines (Text.trim text.toList)).length

/-- Reads JSON, and says whether that had to be done line by line. -/
def readJson (text : String) : Bool × Except Problem Records :=
  match Json.read? text with
  | some document => (false, .ok (ofDocument document))
  -- one line that is no JSON is no record either
  | none => if hasLines text then (true, readLines text) else (false, .error .json)

def read (form : Notation) (text : String) : Except Problem Records :=
  match form with
  | .ndjson => readLines text
  | .json => (readJson text).2
  | .yaml => match Yaml.readJson? text with
    | some document => .ok (ofDocument document)
    | none => .error .yaml

def arrange (shape : Shape) (mapped : List Json) : Json :=
  match shape with
  | .single => mapped.head?.getD .null
  | _ => .array mapped

end Records

end Reshape

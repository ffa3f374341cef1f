import Reshape.Json.Writer
import Reshape.Log.Event
import Reshape.Log.Format

namespace Reshape.Log

def Event.toJson (e : Event) : Json :=
  .object [
    ("level", .string e.level.text),
    ("fields", .object ([("message", Json.string e.message)] ++
      (e.record.map fun text => ("record", Json.string text)).toList)),
    ("target", .string e.origin.target)]

def Event.line (e : Event) : Format → String
  | .json => e.toJson.write ++ "\n"
  | _ =>
    e.level.text ++ " " ++ e.origin.target ++ ": " ++ e.message ++
      (match e.record with
      | some text => " record=" ++ text
      | none => "") ++ "\n"

end Reshape.Log

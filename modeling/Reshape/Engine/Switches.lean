import Reshape.Json.Decode

namespace Reshape

/-- What becomes of a field whose source has no value. -/
inductive AbsentFields where
  | null
  | omit
  deriving DecidableEq, Inhabited

def AbsentFields.names : List (String × AbsentFields) := [("null", .null), ("omit", .omit)]

def AbsentFields.text : AbsentFields → String
  | .null => "null"
  | .omit => "omit"

structure Switches where
  cacheEnabled : Bool := true
  /-- Whether null counts as no value where a template has a fall-back. -/
  nullFallsBack : Bool := false
  absentFields : AbsentFields := .null
  deriving DecidableEq, Inhabited

namespace Switches

def toJson (s : Switches) : Json :=
  .object [
    ("cache_enabled", .bool s.cacheEnabled),
    ("null_triggers_default", .bool s.nullFallsBack),
    ("absent_fields", .string s.absentFields.text)]

def put (s : Switches) (key : String) (value : Json) : Json.Decoded Switches :=
  match key with
  | "cache_enabled" => return { s with cacheEnabled := ← value.decodeBool }
  | "null_triggers_default" => return { s with nullFallsBack := ← value.decodeBool }
  | "absent_fields" =>
    return { s with absentFields := ← Json.decodeName AbsentFields.names value }
  | _ => return s

def ofJson (value : Json) : Json.Decoded Switches := do
  let record ← Json.Record.ofJson "EngineConfig"
    ["cache_enabled", "null_triggers_default", "absent_fields"] value
  let s ← record.gather {} put
  record.close
  return s

end Switches

end Reshape

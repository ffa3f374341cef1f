import Reshape.Json.Writer
import Reshape.Text.Quoted

namespace Reshape.Json

inductive Mismatch where
  | kind (found : Json) (expected : String)
  /-- A value of the right kind that its place cannot take. -/
  | value (found : Json) (expected : String)
  | size (found : Nat) (expected : String)
  | missing (field : String)
  | unknownVariant (found : String) (known : List String)
  /-- A variant's name alone where the variant holds fields. -/
  | bareVariant
  | noSpelling (name : String)
  | refused (message : String)

namespace Mismatch

def described : Json → String
  | .null => "null"
  | .bool b => "boolean `" ++ (if b then "true" else "false") ++ "`"
  | .number (.whole n) => "integer `" ++ String.ofList (integerText n) ++ "`"
  | .number (.float f) => "floating point `" ++ String.ofList (f.write floatLayout) ++ "`"
  | .string s => "string " ++ Text.quoted s
  | .array _ => "sequence"
  | .object _ => "map"

/-- The names that can stand in a place: two as a choice, more as a list. -/
def choices (names : List String) : String :=
  let marked := names.map fun name => "`" ++ name ++ "`"
  match marked with
  | [a] => a
  | [a, b] => a ++ " or " ++ b
  | _ => "one of " ++ ", ".intercalate marked

def message : Mismatch → String
  | .kind found expected => "invalid type: " ++ described found ++ ", expected " ++ expected
  | .value found expected => "invalid value: " ++ described found ++ ", expected " ++ expected
  | .size found expected => s!"invalid length {found}, expected " ++ expected
  | .missing field => "missing field `" ++ field ++ "`"
  | .unknownVariant found known =>
    "unknown variant `" ++ found ++ "`, expected " ++ choices known
  | .bareVariant => "invalid type: unit variant, expected struct variant"
  | .noSpelling name => "data did not match any variant of untagged enum " ++ name
  | .refused message => message

end Mismatch

abbrev Decoded (α : Type) := Except Mismatch α

def decodeString : Json → Decoded String
  | .string s => .ok s
  | value => .error (.kind value "a string")

def decodeBool : Json → Decoded Bool
  | .bool b => .ok b
  | value => .error (.kind value "a boolean")

def decodeItems : Json → Decoded (List Json)
  | .array items => .ok items
  | value => .error (.kind value "a sequence")

def decodeMembers : Json → Decoded Members
  | .object members => .ok members
  | value => .error (.kind value "a map")

def decodeSize : Json → Decoded Nat
  | .number (.whole n) =>
    if 0 ≤ n then .ok n.toNat else .error (.value (.number (.whole n)) "usize")
  | value => .error (.kind value "usize")

def decodeOption {α : Type} (decode : Json → Decoded α) : Json → Decoded (Option α)
  | .null => .ok none
  | value => (decode value).map some

def decodeList {α : Type} (decode : Json → Decoded α) (value : Json) : Decoded (List α) := do
  (← decodeItems value).mapM decode

/-- One of a list of names: a string, or an object with null under the name. -/
def decodeName {α : Type} (names : List (String × α)) : Json → Decoded α
  | .string s => named s
  | .object [(key, value)] => do
    let found ← named key
    match value with
    | .null => return found
    | _ => throw (.kind value "unit")
  | .object members => .error (.value (.object members) "map with a single key")
  | value => .error (.kind value "string or map")
where
  named (s : String) : Decoded α :=
    match names.lookup s with
    | some found => .ok found
    | none => .error (.unknownVariant s (names.map Prod.fst))

/-- A record given by its fields' names, or by their values in the order of the fields. -/
structure Record where
  name : String
  fields : List String
  members : Members
  /-- How many values were given, if they were given without names. -/
  count : Option Nat

namespace Record

def ofJson (name : String) (fields : List String) : Json → Decoded Record
  | .object members => .ok ⟨name, fields, members, none⟩
  | .array items => .ok ⟨name, fields, fields.zip items, some items.length⟩
  | value => .error (.kind value ("struct " ++ name))

def missing (r : Record) (field : String) : Mismatch :=
  match r.count with
  | none => .missing field
  | some _ =>
    .size (r.fields.idxOf field) (s!"struct " ++ r.name ++ s!" with {r.fields.length} elements")

def close (r : Record) : Decoded Unit :=
  match r.count with
  | some n => if r.fields.length < n then .error (.size n "fewer elements in array") else .ok ()
  | none => .ok ()

def gather {α : Type} (r : Record) (start : α) (put : α → String → Json → Decoded α) :
    Decoded α :=
  r.members.foldlM (fun all (key, value) => put all key value) start

end Record

end Reshape.Json

import Reshape.Filter.Reference
import Reshape.Sorted
import Reshape.Words

namespace Reshape

/-- How a field's name becomes the key it is read from. -/
inductive Naming where
  | identity
  | snakeCase
  | camelCase
  | kebabCase
  deriving DecidableEq, Inhabited

namespace Naming

def apply : Naming → String → String
  | .identity, field => field
  | .snakeCase, field => String.ofList (Words.snake field.toList)
  | .camelCase, field => String.ofList (Words.camel field.toList)
  | .kebabCase, field => String.ofList (Words.kebab field.toList)

def names : List (String × Naming) := [
  ("identity", .identity),
  ("snake_case", .snakeCase),
  ("camelCase", .camelCase),
  ("kebab-case", .kebabCase)]

def text : Naming → String
  | .identity => "identity"
  | .snakeCase => "snake_case"
  | .camelCase => "camelCase"
  | .kebabCase => "kebab-case"

end Naming

structure Field where
  name : String
  /-- The key the field is read from by convention, in place of the one made of its name. -/
  key : Option String := none
  /-- The path the field is read from when no template is in force. -/
  source : Option String := none
  deriving DecidableEq, Inhabited

/-- The key the field is read from by convention; dots in it mean nothing. -/
def Field.conventionKey (field : Field) (naming : Naming) : String :=
  field.key.getD (naming.apply field.name)

abbrev FieldFilters := Sorted (List Filter.Reference)

def FieldFilters.push (filters : FieldFilters) (field : String) (reference : Filter.Reference) :
    FieldFilters :=
  filters.adjust field fun list => list.getD [] ++ [reference]

structure Descriptor where
  id : String
  fields : List Field
  naming : Naming := .identity
  /-- Template texts and literal values by field; a call may bring its own. -/
  template : Json.Members := []
  fieldFilters : FieldFilters := []
  pipeline : List Filter.Reference := []
  deriving Inhabited

namespace Descriptor

def field? (d : Descriptor) (name : String) : Option Field := d.fields.find? (·.name == name)

def fieldFault? (id : String) (seen : List String) : List Field → Option String
  | [] => none
  | field :: fields =>
    if field.name.isEmpty then some ("Type '" ++ id ++ "' has a field with an empty name")
    else if seen.contains field.name then
      some ("Type '" ++ id ++ "' declares field '" ++ field.name ++ "' twice")
    else fieldFault? id (field.name :: seen) fields

/-- A type needs an id that is not blank, and fields with names that differ. -/
def fault? (d : Descriptor) : Option String :=
  if (Text.trim d.id.toList).isEmpty then some "Type id must not be empty"
  else fieldFault? d.id [] d.fields

def validate (d : Descriptor) : Except Error Unit :=
  match d.fault? with
  | some message => .error (.catalog message none)
  | none => .ok ()

end Descriptor

end Reshape

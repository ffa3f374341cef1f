import Reshape.Filter.Arguments
import Reshape.Filter.Reference
import Reshape.Sorted

namespace Reshape.Filter

structure Registry where
  filters : Sorted Filter := []

structure Bound where
  reference : Reference
  run : Filter

namespace Bound

def apply (b : Bound) (value : Json) : Except Failure Json := b.run value b.reference.arguments

/-- Equality of bound lists. Filters are not compared: a registry has one under each name. -/
def listAgrees : List Bound → List Bound → Bool
  | [], [] => true
  | a :: as, b :: bs => a.reference.agrees b.reference && listAgrees as bs
  | _, _ => false

end Bound

namespace Registry

def empty : Registry := ⟨[]⟩

def insert (registry : Registry) (name : String) (filter : Filter) : Registry :=
  ⟨registry.filters.insert name filter⟩

def insertAll (registry : Registry) (filters : List (String × Filter)) : Registry :=
  ⟨registry.filters.insertAll filters⟩

def get (registry : Registry) (name : String) : Except BuildError Filter :=
  match registry.filters.get? name with
  | some filter => .ok filter
  | none => .error (.unknownFilter name none)

def contains (registry : Registry) (name : String) : Bool := (registry.filters.get? name).isSome

def names (registry : Registry) : List String := registry.filters.keys

def size (registry : Registry) : Nat := registry.filters.length

def apply (registry : Registry) (field name : String) (value : Json) (arguments : List Json) :
    Except Error Json :=
  match registry.get name with
  | .error error => .error (.build error)
  | .ok filter => (filter value arguments).mapError (.filterFailed field name)

def bind (registry : Registry) (reference : Reference) : Except BuildError Bound :=
  (registry.get reference.name).map (⟨reference, ·⟩)

/-- Binds references in order; the first unknown name is the error. -/
def bindAll (registry : Registry) (references : List Reference) : Except BuildError (List Bound) :=
  references.mapM registry.bind

end Registry

end Reshape.Filter

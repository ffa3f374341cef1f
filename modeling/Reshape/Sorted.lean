namespace Reshape

/-- Values under text keys, in the order of the keys. -/
abbrev Sorted (α : Type) := List (String × α)

namespace Sorted

variable {α : Type}

def get? (entries : Sorted α) (key : String) : Option α := entries.lookup key

def keys (entries : Sorted α) : List String := entries.map Prod.fst

/-- Gives a key the value made of the one it has, in the key's place. -/
def adjust (key : String) (f : Option α → α) : Sorted α → Sorted α
  | [] => [(key, f none)]
  | (k, v) :: rest =>
    if key < k then (key, f none) :: (k, v) :: rest
    else if key = k then (k, f (some v)) :: rest
    else (k, v) :: adjust key f rest

def insert (entries : Sorted α) (key : String) (value : α) : Sorted α :=
  entries.adjust key fun _ => value

/-- Later entries take the place of earlier ones. -/
def insertAll (entries : Sorted α) (others : List (String × α)) : Sorted α :=
  others.foldl (fun all (key, value) => all.insert key value) entries

end Sorted

end Reshape

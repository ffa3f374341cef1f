import Reshape.Number.Binary64

namespace Reshape

/-- A number of a JSON value. Whole numbers lie between `-2 ^ 63` and `2 ^ 64 - 1`; a float is
another number even when it has no fraction. -/
inductive Json.Number where
  | whole (n : Int)
  | float (f : Binary64)
  deriving DecidableEq, Inhabited

inductive Json where
  | null
  | bool (b : Bool)
  | number (n : Json.Number)
  | string (s : String)
  | array (items : List Json)
  | object (members : List (String × Json))
  deriving Inhabited

namespace Json

abbrev Members := List (String × Json)

def ofInt (n : Int) : Json := .number (.whole n)

def ofNat (n : Nat) : Json := .number (.whole n)

def ofFloat (f : Binary64) : Json := .number (.float f)

def strings (texts : List String) : Json := .array (texts.map .string)

namespace Members

def get? (members : Members) (key : String) : Option Json := members.lookup key

def keys (members : Members) : List String := members.map Prod.fst

def contains (members : Members) (key : String) : Bool := members.any (·.1 == key)

/-- Puts a value under a key: in the key's place if it is there, else at the end. -/
def insert : Members → String → Json → Members
  | [], key, value => [(key, value)]
  | (k, v) :: rest, key, value =>
    if k = key then (k, value) :: rest else (k, v) :: insert rest key value

/-- The members inserted one after another: a repeated key keeps its first place and its last
value. -/
def ofList (members : List (String × Json)) : Members :=
  members.foldl (fun all (key, value) => all.insert key value) []

end Members

mutual

def merged : Json → Json
  | .array items => .array (mergedItems items)
  | .object members => .object (Members.ofList (mergedMembers members))
  | value => value

def mergedItems : List Json → List Json
  | [] => []
  | item :: items => merged item :: mergedItems items

def mergedMembers : List (String × Json) → List (String × Json)
  | [] => []
  | (key, value) :: members => (key, merged value) :: mergedMembers members

end

def asString? : Json → Option String
  | .string s => some s
  | _ => none

def asArray? : Json → Option (List Json)
  | .array items => some items
  | _ => none

def asObject? : Json → Option Members
  | .object members => some members
  | _ => none

/-- Numbers are equal when their kind and value are; the zeros of both signs are one value. -/
def Number.agrees : Number → Number → Bool
  | .whole m, .whole n => m = n
  | .float f, .float g => f = g || (f.isZero && g.isZero)
  | _, _ => false

mutual

/-- Equality of values, which does not look at the order of an object's members. -/
def agrees : Json → Json → Bool
  | .null, .null => true
  | .bool a, .bool b => a = b
  | .number a, .number b => a.agrees b
  | .string a, .string b => a = b
  | .array as, .array bs => itemsAgree as bs
  | .object as, .object bs => as.length = bs.length && membersAgree as bs
  | _, _ => false

def itemsAgree : List Json → List Json → Bool
  | [], [] => true
  | a :: as, b :: bs => agrees a b && itemsAgree as bs
  | _, _ => false

def membersAgree : List (String × Json) → Members → Bool
  | [], _ => true
  | (key, a) :: as, bs =>
    (match bs.get? key with
    | some b => agrees a b
    | none => false) && membersAgree as bs

end

end Json

end Reshape

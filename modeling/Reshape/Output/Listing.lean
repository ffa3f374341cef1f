import Reshape.Json.Writer
import Reshape.Plan.Cache

namespace Reshape

namespace Listing

def padded (width : Nat) (s : String) : String :=
  s ++ String.ofList (List.replicate (width - s.length) ' ')

def referenceTexts (list : List Filter.Bound) : List String := list.map fun b => b.reference.text

def chain (texts : List String) : String := " | ".intercalate texts

/-- Names are as wide as the longest one is in bytes. -/
def nameWidth (plan : Plan) : Nat := (plan.fields.map fun f => f.name.utf8ByteSize).foldl max 0

def fieldLine (width : Nat) (field : Plan.Field) : String :=
  let line :=
    "  " ++ padded width field.name ++ "  " ++ padded 10 field.source.kind ++ "  " ++
      field.source.text
  if field.filters.isEmpty then line
  else line ++ "  | " ++ chain (referenceTexts field.filters)

def planLines (plan : Plan) : List String :=
  ("Plan for " ++ plan.typeId ++ " (" ++ String.ofList (plan.fingerprint.toList.take 12) ++ ")") ::
    plan.fields.map (fieldLine (nameWidth plan)) ++
    if plan.pipeline.isEmpty then [] else ["Pipeline: " ++ chain (referenceTexts plan.pipeline)]

def plan (plan : Plan) : String := "\n".intercalate (planLines plan)

def fieldJson (field : Plan.Field) : Json :=
  .object [
    ("name", .string field.name),
    ("source", .string field.source.kind),
    ("expression", .string field.source.text),
    ("filters", .strings (referenceTexts field.filters))]

def planJson (plan : Plan) : Json :=
  .object [
    ("type", .string plan.typeId),
    ("fingerprint", .string plan.fingerprint),
    ("fields", .array (plan.fields.map fieldJson)),
    ("pipeline", .strings (referenceTexts plan.pipeline))]

def percent (share : Binary64) : String :=
  String.ofList (share.mul (.ofNat 100)).writeTenths ++ "%"

def stats (s : Plan.Cache.Stats) : String :=
  s!"Plans cached: {s.size}\nHits: {s.hits}\nMisses: {s.misses}\nHit rate: " ++ percent s.hitRate

def statsJson (s : Plan.Cache.Stats) : Json :=
  .object [
    ("size", .ofNat s.size),
    ("hits", .ofNat s.hits),
    ("misses", .ofNat s.misses),
    ("hit_rate", .ofFloat s.hitRate)]

structure Check where
  typeId : String
  fields : Option Nat
  error : Option String
  deriving DecidableEq

namespace Check

def ok (check : Check) : Bool := check.error.isNone

def text (check : Check) : String :=
  match check.error with
  | none => "✓ " ++ check.typeId ++ s!" ({check.fields.getD 0} fields)"
  | some error => "✗ " ++ check.typeId ++ ": " ++ error

def toJson (check : Check) : Json :=
  .object (
    [("type", .string check.typeId), ("ok", .bool check.ok)] ++
    (check.fields.map fun n => ("fields", Json.ofNat n)).toList ++
    (check.error.map fun e => ("error", Json.string e)).toList)

end Check

end Listing

end Reshape

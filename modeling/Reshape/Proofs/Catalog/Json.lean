import Reshape.Proofs.Catalog
import Reshape.Proofs.Descriptor.Json
import Reshape.Proofs.Json.Text

namespace Reshape.Catalog

open Json (maxDepth)

def entriesJson (types : List Descriptor) : Json := .array (types.map Descriptor.toJson)

theorem decodeFrom_map_toJson {types : List Descriptor}
    (h : ∀ d ∈ types, d.fieldFilters.Ordered) (index : ℕ) :
    decodeFrom index (types.map Descriptor.toJson) = .ok types := by
  induction types generalizing index with
  | nil => rfl
  | cons d types ih =>
    have hrest := ih (fun other ho => h other (List.mem_cons_of_mem _ ho)) (index + 1)
    simp only [List.map_cons, decodeFrom, Descriptor.ofJson_toJson (h d List.mem_cons_self), hrest]
    rfl

/-- The documents that hold a list of types: the list, or an object with the list as its `types`. -/
def Holds (document : Json) (types : List Descriptor) : Prop :=
  document = entriesJson types ∨
    ∃ members : Json.Members, document = .object members ∧
      members.get? "types" = some (entriesJson types)

theorem entries_of_holds {document : Json} {types : List Descriptor} (h : Holds document types) :
    entries document = .ok (types.map Descriptor.toJson) := by
  obtain rfl | ⟨members, rfl, hmember⟩ := h
  · rfl
  · have hlookup : members.lookup "types" = some (entriesJson types) := hmember
    simp only [entries, hlookup, entriesJson]

theorem ofJson_of_holds {document : Json} {types : List Descriptor} (h : Holds document types)
    (hordered : ∀ d ∈ types, d.fieldFilters.Ordered) (hvalid : ∀ d ∈ types, d.validate = .ok ())
    (hids : (types.map Descriptor.id).Nodup) : ofJson document = .ok types := by
  have hchecked : checkFrom [] types = .ok () :=
    checkFrom_eq_ok.2 ⟨hvalid, fresh_iff_nodup.2 hids⟩
  unfold ofJson
  rw [entries_of_holds h, Outcome.ok_bind, decodeFrom_map_toJson hordered, Outcome.ok_bind,
    hchecked]
  rfl

theorem parse_write {document : Json} (h : document.Storable maxDepth) :
    parse .json document.write = ofJson document := by
  unfold parse readText
  rw [Json.read?_write h]
  rfl

/-- What is written of a type or of overrides is read back, and so is a catalog: no part is lost
with the empty ones that are left out, and no text in it is taken for a shorter spelling. The order
of template entries is kept, and with it the fingerprint of overrides. -/
theorem encodings_read_back :
    (∀ d : Descriptor, d.fieldFilters.Ordered → Descriptor.ofJson d.toJson = .ok d ∧
      (d.toJson.Storable maxDepth →
        (Json.read? d.toJson.write).map Descriptor.ofJson = some (.ok d))) ∧
    (∀ o : Overrides, o.fieldFilters.Ordered → Overrides.ofJson o.toJson = .ok o ∧
      (Overrides.ofJson o.toJson).map Overrides.fingerprint = .ok o.fingerprint ∧
      (o.toJson.Storable maxDepth →
        (Json.read? o.toJson.write).map Overrides.ofJson = some (.ok o))) ∧
    ∀ (types : List Descriptor) (document : Json),
      (∀ d ∈ types, d.fieldFilters.Ordered ∧ d.validate = .ok ()) →
      (types.map Descriptor.id).Nodup → Holds document types → document.Storable maxDepth →
      parse .json document.write = .ok types := by
  refine ⟨fun d hd => ?_, fun o ho => ?_, fun types document htypes hids hholds hstorable => ?_⟩
  · have hread := Descriptor.ofJson_toJson hd
    refine ⟨hread, fun hstorable => ?_⟩
    rw [Json.read?_write hstorable, Option.map_some, hread]
  · have hread := Overrides.ofJson_toJson ho
    refine ⟨hread, ?_, fun hstorable => ?_⟩
    · rw [hread]
      rfl
    · rw [Json.read?_write hstorable, Option.map_some, hread]
  · rw [parse_write hstorable]
    exact ofJson_of_holds hholds (fun d hd => (htypes d hd).1) (fun d hd => (htypes d hd).2) hids

/-- A type with a nested template value, a field without filters and filters with arguments. -/
def noteType : Descriptor where
  id := "Note"
  fields := [⟨"title", none, some "head.title"⟩, ⟨"memo", some "note", none⟩]
  naming := .snakeCase
  template := [
    ("tags", .array [.null, .object [("{{ a }}", .ofInt (-1))]]),
    ("lang", .string "\"en\"")]
  fieldFilters := [("memo", []), ("title", [⟨"substr", [.ofInt 0, .ofInt 3]⟩])]
  pipeline := [⟨"trim", []⟩]

theorem encodings_read_back_note :
    Descriptor.ofJson noteType.toJson = .ok noteType ∧
    Overrides.ofJson (Overrides.toJson ⟨noteType.template, noteType.fieldFilters, []⟩) =
      .ok ⟨noteType.template, noteType.fieldFilters, []⟩ ∧
    parse .json (Json.object [("version", .ofInt 1), ("types", entriesJson [noteType])]).write =
      .ok [noteType] := by
  obtain ⟨hdescriptor, hoverrides, hcatalog⟩ := encodings_read_back
  have hordered : noteType.fieldFilters.Ordered := by decide
  refine ⟨(hdescriptor noteType hordered).1, (hoverrides ⟨_, _, []⟩ hordered).1, ?_⟩
  refine hcatalog [noteType] _ ?_ (by decide) (.inr ⟨_, rfl, rfl⟩) ?_
  · intro d hd
    obtain rfl := List.mem_singleton.1 hd
    exact ⟨hordered, rfl⟩
  · have hread : ∀ n ∈ [1, -1, 0, 3], (Json.Number.whole n).ReadsBack := by
      intro n hn
      have hbounds : ∀ m ∈ [1, -1, 0, 3], minInt64 ≤ m ∧ m ≤ maxUInt64 := by decide
      exact Json.Number.readsBack_whole (hbounds n hn).1 (hbounds n hn).2
    simpa [entriesJson, noteType, Descriptor.toJson, Descriptor.unlessEmpty, Field.toJson,
      FieldFilters.toJson, FieldFilters.referencesJson, Filter.Reference.toJson, Json.Members.keys,
      Json.ofInt, maxDepth] using hread

end Reshape.Catalog

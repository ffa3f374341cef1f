import Reshape.Proofs.Catalog
import Reshape.Proofs.Descriptor
import Reshape.Proofs.Json.Text

namespace Reshape.Catalog

/-- The text is a catalog with an entry for each of the types, whether they are accepted or not. -/
def Decodes (format : Format) (text : String) (types : List Descriptor) : Prop :=
  ∃ document items, readText format text = .ok document ∧ entries document = .ok items ∧
    List.Forall₂ (fun entry d => Descriptor.ofJson entry = .ok d) items types

/-- Every type is well named, and no two have the same id. -/
structure Acceptable (types : List Descriptor) : Prop where
  wellNamed : ∀ d ∈ types, d.WellNamed
  nodup : (types.map Descriptor.id).Nodup

variable {format : Format} {text : String} {types : List Descriptor}

theorem decodeFrom_of_forall₂ {items : List Json}
    (h : List.Forall₂ (fun entry d => Descriptor.ofJson entry = .ok d) items types) (index : ℕ) :
    decodeFrom index items = .ok types := by
  induction h generalizing index with
  | nil => rfl
  | cons hentry _ ih =>
    rw [decodeFrom, hentry, ih (index + 1)]
    rfl

/-- Once all entries are decoded, a catalog is its types or the first fault of their check. -/
theorem parse_of_decodes (h : Decodes format text types) :
    parse format text = (checkFrom [] types).map fun _ => types := by
  obtain ⟨document, items, hdocument, hitems, htypes⟩ := h
  unfold parse ofJson
  rw [hdocument, Outcome.ok_bind, hitems, Outcome.ok_bind, decodeFrom_of_forall₂ htypes,
    Outcome.ok_bind]
  rfl

theorem acceptable_iff : Acceptable types ↔
    (∀ d ∈ types, d.validate = .ok ()) ∧ (types.map Descriptor.id).Nodup := by
  simp only [Descriptor.validate_eq_ok]
  exact ⟨fun h => ⟨h.wellNamed, h.nodup⟩, fun h => ⟨h.1, h.2⟩⟩

/-- The reader of catalogs and the builder of engines each check types on their own, the one with
the ids it has seen and the other with its table of types, and they agree on all catalogs. -/
theorem parse_accepts_what_builds (h : Decodes format text types) :
    (parse format text = .ok types ↔ Acceptable types) ∧
    (∀ found, parse format text = .ok found → found = types) ∧
    ∀ (registry : Filter.Registry) (switches : Switches),
      ((∃ engine, Engine.build ⟨types, registry, switches⟩ = .ok engine) ↔ Acceptable types) ∧
      ∀ engine, Engine.build ⟨types, registry, switches⟩ = .ok engine →
        engine.typeIds.Perm (types.map Descriptor.id) ∧ engine.typeIds.Pairwise (· < ·) ∧
          ∀ id d, engine.descriptor? id = some d ↔ d ∈ types ∧ d.id = id := by
  have hparse := parse_of_decodes h
  refine ⟨?_, fun found hfound => ?_, fun registry switches => ⟨?_, fun engine hb => ?_⟩⟩
  · have hchecked : checkFrom [] types = .ok () ↔ Acceptable types := by
      rw [checkFrom_eq_ok, fresh_iff_nodup, acceptable_iff]
    rw [hparse, Outcome.map_eq_ok, ← hchecked]
    exact ⟨fun ⟨_, hok, _⟩ => hok, fun hok => ⟨(), hok, rfl⟩⟩
  · obtain ⟨-, -, hsame⟩ := Outcome.map_eq_ok.1 (hparse ▸ hfound)
    exact hsame.symm
  · rw [acceptable_iff]
    exact Engine.exists_build_iff
  · exact ⟨Engine.typeIds_perm hb, Engine.ordered_typeIds hb,
      fun _ _ => Engine.descriptor?_eq_some hb⟩

/-- The entries of a catalog whose types do not stand in the order of their ids. -/
def shopEntries : List Json := [
  .object [("id", .string "Order"), ("fields", .array [.object [("name", .string "total")]])],
  .object [("id", .string "Item"), ("fields", .array [])]]

def shopTypes : List Descriptor := [
  { id := "Order", fields := [{ name := "total" }] },
  { id := "Item", fields := [] }]

def shopCatalog : String := (Json.object [("types", .array shopEntries)]).write

theorem parse_accepts_what_builds_shop :
    Decodes .json shopCatalog shopTypes ∧ parse .json shopCatalog = .ok shopTypes ∧
    ∃ engine, Engine.build { types := shopTypes } = .ok engine ∧
      engine.typeIds.Perm ["Order", "Item"] ∧ engine.typeIds.Pairwise (· < ·) := by
  have hread : readText .json shopCatalog = .ok (.object [("types", .array shopEntries)]) := by
    unfold readText shopCatalog
    rw [Json.read?_write]
    simp [shopEntries, Json.maxDepth, Json.Members.keys]
  have hdecodes : Decodes .json shopCatalog shopTypes :=
    ⟨_, shopEntries, hread, rfl, .cons rfl (.cons rfl .nil)⟩
  obtain ⟨hparse, -, hbuild⟩ := parse_accepts_what_builds hdecodes
  have hacceptable : Acceptable shopTypes := by
    refine acceptable_iff.2 ⟨?_, by decide⟩
    simp only [shopTypes, List.forall_mem_cons]
    exact ⟨rfl, rfl, by simp⟩
  obtain ⟨engine, hb⟩ := (hbuild .builtin {}).1.2 hacceptable
  obtain ⟨hids, hsorted, -⟩ := (hbuild .builtin {}).2 engine hb
  exact ⟨hdecodes, hparse.2 hacceptable, engine, hb, hids, hsorted⟩

end Reshape.Catalog

import Reshape.Engine
import Reshape.Proofs.Outcome
import Reshape.Proofs.Sorted

namespace Reshape.Engine

def Keyed (types : Sorted Descriptor) : Prop := ∀ entry ∈ types, entry.2.id = entry.1

theorem addTypes_cons_eq_ok {types all : Sorted Descriptor} {d : Descriptor}
    {ds : List Descriptor} : addTypes types (d :: ds) = .ok all ↔
      d.validate = .ok () ∧ d.id ∉ types.keys ∧ addTypes (types.insert d.id d) ds = .ok all := by
  rw [addTypes, Sorted.mem_keys]
  cases d.validate with
  | error error => simp
  | ok => by_cases hid : (types.get? d.id).isSome = true <;> simp [hid]

theorem keyed_of_addTypes {types all : Sorted Descriptor} {ds : List Descriptor}
    (ht : Keyed types) (h : addTypes types ds = .ok all) : Keyed all := by
  induction ds generalizing types with
  | nil => exact Except.ok.inj h ▸ ht
  | cons d ds ih =>
    obtain ⟨-, -, hrest⟩ := addTypes_cons_eq_ok.1 h
    refine ih ?_ hrest
    intro entry he
    rcases Sorted.mem_insert he with rfl | he
    · rfl
    · exact ht entry he

theorem mem_of_addTypes {types all : Sorted Descriptor} {ds : List Descriptor}
    (h : addTypes types ds = .ok all) {entry : String × Descriptor} (he : entry ∈ all) :
    entry ∈ types ∨ entry.2 ∈ ds ∧ entry.2.validate = .ok () := by
  induction ds generalizing types with
  | nil => exact .inl (Except.ok.inj h ▸ he)
  | cons d ds ih =>
    obtain ⟨hd, -, hrest⟩ := addTypes_cons_eq_ok.1 h
    rcases ih hrest with hold | ⟨hmem, hvalid⟩
    · rcases Sorted.mem_insert hold with rfl | hold
      · exact .inr ⟨List.mem_cons_self, hd⟩
      · exact .inl hold
    · exact .inr ⟨List.mem_cons_of_mem _ hmem, hvalid⟩

theorem build_eq_ok {parts : Parts} {engine : Engine} :
    build parts = .ok engine ↔ ∃ types, addTypes [] parts.types = .ok types ∧ engine =
      ⟨types, parts.registry, parts.switches, { enabled := parts.switches.cacheEnabled }⟩ := by
  unfold build
  rw [Outcome.map_eq_ok]
  exact exists_congr fun types => and_congr_right fun _ => eq_comm

theorem entries_of_build {parts : Parts} {engine : Engine} (h : build parts = .ok engine) :
    engine.cache.entries = [] := by
  obtain ⟨types, -, rfl⟩ := build_eq_ok.1 h
  rfl

theorem registry_of_build {parts : Parts} {engine : Engine} (h : build parts = .ok engine) :
    engine.registry = parts.registry := by
  obtain ⟨types, -, rfl⟩ := build_eq_ok.1 h
  rfl

theorem keyed_of_build {parts : Parts} {engine : Engine} (h : build parts = .ok engine) :
    Keyed engine.types := by
  obtain ⟨types, ht, rfl⟩ := build_eq_ok.1 h
  exact keyed_of_addTypes (by simp [Keyed]) ht

theorem sound_of_descriptor? {parts : Parts} {engine : Engine} (h : build parts = .ok engine)
    {id : String} {d : Descriptor} (hd : engine.descriptor? id = some d) :
    d ∈ parts.types ∧ d.validate = .ok () := by
  obtain ⟨types, ht, rfl⟩ := build_eq_ok.1 h
  rcases mem_of_addTypes ht (Sorted.mem_of_get? hd) with hnil | hnew
  · exact absurd hnil (by simp)
  · exact hnew

theorem id_of_descriptor? {engine : Engine} (hk : Keyed engine.types) {id : String}
    {d : Descriptor} (h : engine.descriptor? id = some d) : d.id = id :=
  hk _ (Sorted.mem_of_get? h)

theorem get?_of_addTypes {types all : Sorted Descriptor} {ds : List Descriptor}
    (h : addTypes types ds = .ok all) : (∀ d ∈ ds, all.get? d.id = some d) ∧
      ∀ id d, types.get? id = some d → all.get? id = some d := by
  induction ds generalizing types with
  | nil =>
    obtain rfl := Except.ok.inj h
    exact ⟨by simp, fun _ _ hold => hold⟩
  | cons d ds ih =>
    obtain ⟨-, hnew, hrest⟩ := addTypes_cons_eq_ok.1 h
    obtain ⟨hadded, hkept⟩ := ih hrest
    refine ⟨?_, ?_⟩
    · intro other hother
      rcases List.mem_cons.1 hother with rfl | hother
      · exact hkept other.id other (Sorted.get?_insert_self types other.id other)
      · exact hadded other hother
    · intro id old hold
      -- the id of the added type is new, so the old entry is another one
      have hne : id ≠ d.id := by
        rintro rfl
        exact hnew (Sorted.mem_keys.2 (by rw [hold]; rfl))
      exact hkept id old ((Sorted.get?_insert_of_ne hne types d).trans hold)

/-- Types can be added if and only if they are sound, differ in their ids and have new ones. -/
theorem exists_addTypes_iff {types : Sorted Descriptor} {ds : List Descriptor} :
    (∃ all, addTypes types ds = .ok all) ↔
      (∀ d ∈ ds, d.validate = .ok ()) ∧ Fresh types.keys (ds.map Descriptor.id) := by
  -- the ids that are taken grow from type to type
  induction ds generalizing types with
  | nil => simp [addTypes]
  | cons d ds ih =>
    have htaken : ∀ id, id ∈ (types.insert d.id d).keys ↔ id ∈ d.id :: types.keys :=
      fun id => Sorted.mem_keys_insert.trans List.mem_cons.symm
    rw [List.map_cons, fresh_cons, List.forall_mem_cons, ← fresh_congr htaken]
    simp only [addTypes_cons_eq_ok, exists_and_left, ih]
    tauto

theorem exists_build_iff {parts : Parts} : (∃ engine, build parts = .ok engine) ↔
    (∀ d ∈ parts.types, d.validate = .ok ()) ∧ (parts.types.map Descriptor.id).Nodup := by
  have hadd := @exists_addTypes_iff [] parts.types
  rw [← fresh_iff_nodup]
  refine Iff.trans ?_ hadd
  constructor
  · rintro ⟨engine, h⟩
    obtain ⟨all, hall, -⟩ := build_eq_ok.1 h
    exact ⟨all, hall⟩
  · rintro ⟨all, hall⟩
    exact ⟨_, build_eq_ok.2 ⟨all, hall, rfl⟩⟩

theorem descriptor?_of_mem {parts : Parts} {engine : Engine} (h : build parts = .ok engine)
    {d : Descriptor} (hd : d ∈ parts.types) : engine.descriptor? d.id = some d := by
  obtain ⟨types, ht, rfl⟩ := build_eq_ok.1 h
  exact (get?_of_addTypes ht).1 d hd

theorem descriptor?_eq_some {parts : Parts} {engine : Engine} (h : build parts = .ok engine)
    {id : String} {d : Descriptor} :
    engine.descriptor? id = some d ↔ d ∈ parts.types ∧ d.id = id := by
  constructor
  · intro hd
    exact ⟨(sound_of_descriptor? h hd).1, id_of_descriptor? (keyed_of_build h) hd⟩
  · rintro ⟨hd, rfl⟩
    exact descriptor?_of_mem h hd

theorem mem_typeIds {parts : Parts} {engine : Engine} (h : build parts = .ok engine)
    {id : String} : id ∈ engine.typeIds ↔ ∃ d ∈ parts.types, d.id = id := by
  have hfound : id ∈ engine.typeIds ↔ ∃ d, engine.descriptor? id = some d :=
    Sorted.mem_keys.trans Option.isSome_iff_exists
  rw [hfound]
  exact exists_congr fun _ => descriptor?_eq_some h

theorem ordered_of_addTypes {types all : Sorted Descriptor} {ds : List Descriptor}
    (ht : types.Ordered) (h : addTypes types ds = .ok all) : all.Ordered := by
  induction ds generalizing types with
  | nil => exact Except.ok.inj h ▸ ht
  | cons d ds ih =>
    obtain ⟨-, -, hrest⟩ := addTypes_cons_eq_ok.1 h
    exact ih (ht.adjust d.id _) hrest

theorem ordered_typeIds {parts : Parts} {engine : Engine} (h : build parts = .ok engine) :
    engine.typeIds.Pairwise (· < ·) := by
  obtain ⟨types, ht, rfl⟩ := build_eq_ok.1 h
  have hnil : Sorted.Ordered ([] : Sorted Descriptor) := List.Pairwise.nil
  exact ordered_of_addTypes hnil ht

theorem typeIds_perm {parts : Parts} {engine : Engine} (h : build parts = .ok engine) :
    engine.typeIds.Perm (parts.types.map Descriptor.id) := by
  have hne : ∀ {a b : String}, a < b → a ≠ b := by
    rintro a b hlt rfl
    exact String.lt_irrefl a hlt
  have hsorted : engine.typeIds.Nodup := (ordered_typeIds h).imp hne
  have hids := (exists_build_iff.1 ⟨engine, h⟩).2
  rw [List.perm_ext_iff_of_nodup hsorted hids]
  intro id
  rw [mem_typeIds h, List.mem_map]

end Reshape.Engine

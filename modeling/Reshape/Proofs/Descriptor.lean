import Reshape.Overrides
import Reshape.Proofs.Sorted
import Reshape.Proofs.Text

namespace Reshape

/-- The maps of a type have every key once. -/
structure Descriptor.KeysOnce (d : Descriptor) : Prop where
  template : d.template.keys.Nodup
  fieldFilters : d.fieldFilters.keys.Nodup

/-- The maps of a call's overrides have every key once. -/
structure Overrides.KeysOnce (o : Overrides) : Prop where
  template : o.template.keys.Nodup
  fieldFilters : o.fieldFilters.keys.Nodup

namespace Descriptor

def ownNames (d : Descriptor) : List String := d.fields.map Field.name

/-- The id is not blank, no field's name is empty, and the names differ. -/
structure WellNamed (d : Descriptor) : Prop where
  id : ∃ c ∈ d.id.toList, Text.isBlank c = false
  names : "" ∉ d.ownNames
  nodup : d.ownNames.Nodup

theorem fieldFault?_eq_none {id : String} {seen : List String} {fields : List Field} :
    fieldFault? id seen fields = none ↔
      "" ∉ fields.map Field.name ∧ Fresh seen (fields.map Field.name) := by
  -- the names that were seen grow from field to field
  induction fields generalizing seen with
  | nil => simp [fieldFault?]
  | cons field fields ih =>
    rw [List.map_cons, fresh_cons, List.mem_cons, not_or, fieldFault?]
    by_cases hempty : field.name = ""
    · simp [hempty]
    · have hisEmpty : field.name.isEmpty = false := by simpa using hempty
      by_cases hseen : field.name ∈ seen
      · simp [hisEmpty, hseen]
      · simp [hisEmpty, hseen, ih, Ne.symm hempty]

theorem validate_eq_ok {d : Descriptor} : d.validate = .ok () ↔ d.WellNamed := by
  have hfault : d.validate = .ok () ↔ d.fault? = none := by
    unfold validate
    cases d.fault? <;> simp
  have hblank : (Text.trim d.id.toList).isEmpty = false ↔
      ∃ c ∈ d.id.toList, Text.isBlank c = false := by
    rw [List.isEmpty_eq_false_iff, ne_eq, Text.trim_eq_nil_iff]
    simp
  rw [hfault, fault?]
  by_cases hid : (Text.trim d.id.toList).isEmpty = true
  · simp only [hid, if_true, reduceCtorEq, false_iff]
    intro h
    exact absurd (hblank.2 h.id) (by simp [hid])
  · rw [if_neg hid, fieldFault?_eq_none, fresh_iff_nodup]
    exact ⟨fun h => ⟨hblank.1 (by simpa using hid), h.1, h.2⟩, fun h => ⟨h.names, h.nodup⟩⟩

theorem nodup_ownNames {d : Descriptor} (h : d.validate = .ok ()) : d.ownNames.Nodup :=
  (validate_eq_ok.1 h).nodup

theorem field?_eq_none {d : Descriptor} {name : String} :
    d.field? name = none ↔ name ∉ d.ownNames := by
  unfold field? ownNames
  rw [List.find?_eq_none]
  constructor
  · intro h hm
    obtain ⟨field, hf, rfl⟩ := List.mem_map.1 hm
    exact h field hf (by simp)
  · intro h field hf hb
    exact h ((beq_iff_eq.1 hb) ▸ List.mem_map_of_mem hf)

theorem field?_of_mem {d : Descriptor} (hd : d.ownNames.Nodup) {field : Field}
    (h : field ∈ d.fields) : d.field? field.name = some field :=
  find?_name_of_mem hd h

def withoutSources (d : Descriptor) : Descriptor :=
  { d with fields := d.fields.map fun field => { field with source := none } }

theorem isNone_field?_withoutSources (d : Descriptor) (name : String) :
    (d.withoutSources.field? name).isNone = (d.field? name).isNone := by
  have hnames : d.withoutSources.ownNames = d.ownNames := by
    unfold ownNames withoutSources
    rw [List.map_map]
    rfl
  rw [Bool.eq_iff_iff, Option.isNone_iff_eq_none, Option.isNone_iff_eq_none, field?_eq_none,
    field?_eq_none, hnames]

end Descriptor

end Reshape

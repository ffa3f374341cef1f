import Reshape.Overrides.Json
import Reshape.Proofs.Outcome
import Reshape.Proofs.Sorted

namespace Reshape

namespace Json

variable {α : Type} {encode : α → Json} {decode : Json → Decoded α}

theorem mapM_map_of_inverse (h : ∀ a, decode (encode a) = .ok a) (l : List α) :
    (l.map encode).mapM decode = .ok l :=
  Outcome.mapM_eq_ok.2 (List.forall₂_map_left_iff.2 (List.forall₂_same.2 fun a _ => h a))

theorem decodeList_map (h : ∀ a, decode (encode a) = .ok a) (l : List α) :
    decodeList decode (.array (l.map encode)) = .ok l :=
  mapM_map_of_inverse h l

end Json

namespace Filter.Reference

/-- The object that is written is never taken for the text of a reference. -/
theorem ofJson_toJson (r : Reference) : ofJson r.toJson = .ok r := by
  obtain ⟨name, arguments⟩ := r
  cases arguments with
  | nil => rfl
  | cons argument arguments => rfl

end Filter.Reference

namespace Field

theorem ofJson_toJson (field : Field) : ofJson field.toJson = .ok field := by
  obtain ⟨name, key, source⟩ := field
  cases key <;> cases source <;> rfl

end Field

theorem Naming.ofJson_text (naming : Naming) : ofJson (.string naming.text) = .ok naming := by
  cases naming <;> rfl

namespace FieldFilters

theorem decodeList_referencesJson (references : List Filter.Reference) :
    Json.decodeList Filter.Reference.ofJson (referencesJson references) = .ok references :=
  Json.decodeList_map Filter.Reference.ofJson_toJson references

theorem decodeField (entry : String × List Filter.Reference) :
    (do return (entry.1, ← Json.decodeList Filter.Reference.ofJson (referencesJson entry.2))) =
      (.ok entry : Json.Decoded (String × List Filter.Reference)) := by
  rw [decodeList_referencesJson]
  rfl

/-- A field whose list is empty stays apart from a field that has no list. -/
theorem ofJson_toJson {filters : FieldFilters} (h : filters.Ordered) :
    ofJson filters.toJson = .ok filters := by
  have hinsert := h.insertAll_nil
  unfold ofJson toJson Json.decodeMembers
  rw [Outcome.ok_bind]
  refine Outcome.bind_eq_ok.2 ⟨filters, ?_, ?_⟩
  · exact Outcome.mapM_eq_ok.2
      (List.forall₂_map_left_iff.2 (List.forall₂_same.2 fun entry _ => decodeField entry))
  · rw [hinsert]
    rfl

/-- Whatever order the fields are written in, their keys are ordered once they are read. -/
theorem ordered_of_ofJson {value : Json} {filters : FieldFilters}
    (h : ofJson value = .ok filters) : filters.Ordered := by
  obtain ⟨members, -, hlists⟩ := Outcome.bind_eq_ok.1 h
  obtain ⟨lists, -, hfilters⟩ := Outcome.bind_eq_ok.1 hlists
  have hnil : Sorted.Ordered ([] : FieldFilters) := List.Pairwise.nil
  exact Except.ok.inj hfilters ▸ hnil.insertAll lists

end FieldFilters

namespace Descriptor

/-- A member is taken up alike whether it is left out as empty or not, if the start has the empty
value in its place. -/
theorem foldlM_unlessEmpty {isEmpty : Bool} {key : String} {value : Json} {start next : Draft}
    (hput : start.put key value = .ok next) (hempty : isEmpty = true → next = start) :
    (unlessEmpty isEmpty key value).foldlM (fun all (key, value) => all.put key value) start =
      .ok next := by
  cases isEmpty with
  | true =>
    rw [hempty rfl]
    rfl
  | false =>
    show (start.put key value >>= fun all => pure all) = .ok next
    rw [hput]
    rfl

/-- The draft that has taken up every member of a descriptor. -/
def taken (d : Descriptor) : Draft := ⟨some d.id, some d.fields, { d with id := "", fields := [] }⟩

variable (d : Descriptor)

theorem foldlM_required : [("id", Json.string d.id), ("fields", .array (d.fields.map Field.toJson)),
    ("naming", .string d.naming.text)].foldlM (fun all (key, value) => all.put key value)
      ({} : Draft) =
    .ok (taken { d with template := [], fieldFilters := [], pipeline := [] }) := by
  have hfields := Json.decodeList_map Field.ofJson_toJson d.fields
  simp only [List.foldlM_cons, List.foldlM_nil, Draft.put, Json.decodeString, hfields,
    Naming.ofJson_text, Outcome.ok_bind]
  rfl

theorem foldlM_template : (unlessEmpty d.template.isEmpty "template" (.object d.template)).foldlM
    (fun all (key, value) => all.put key value)
      (taken { d with template := [], fieldFilters := [], pipeline := [] }) =
    .ok (taken { d with fieldFilters := [], pipeline := [] }) := by
  refine foldlM_unlessEmpty rfl fun hempty => ?_
  rw [List.isEmpty_iff] at hempty
  rw [← hempty]

theorem foldlM_fieldFilters (h : d.fieldFilters.Ordered) :
    (unlessEmpty d.fieldFilters.isEmpty "field_filters" d.fieldFilters.toJson).foldlM
      (fun all (key, value) => all.put key value)
        (taken { d with fieldFilters := [], pipeline := [] }) =
      .ok (taken { d with pipeline := [] }) := by
  refine foldlM_unlessEmpty ?_ fun hempty => ?_
  · simp only [Draft.put, FieldFilters.ofJson_toJson h, Outcome.ok_bind]
    rfl
  · rw [List.isEmpty_iff] at hempty
    rw [← hempty]

theorem foldlM_pipeline :
    (unlessEmpty d.pipeline.isEmpty "pipeline" (FieldFilters.referencesJson d.pipeline)).foldlM
      (fun all (key, value) => all.put key value) (taken { d with pipeline := [] }) =
    .ok (taken d) := by
  refine foldlM_unlessEmpty ?_ fun hempty => ?_
  · simp only [Draft.put, FieldFilters.decodeList_referencesJson, Outcome.ok_bind]
    rfl
  · rw [List.isEmpty_iff] at hempty
    rw [← hempty]

theorem ofJson_toJson {d : Descriptor} (h : d.fieldFilters.Ordered) :
    ofJson d.toJson = .ok d := by
  have hgather : ∀ members, d.toJson = .object members →
      (⟨"TypeDescriptor", fieldNames, members, none⟩ : Json.Record).gather {} Draft.put =
        .ok d.taken := by
    rintro _ ⟨⟩
    unfold Json.Record.gather
    simp only [List.foldlM_append, foldlM_required, foldlM_template, foldlM_fieldFilters d h,
      foldlM_pipeline, Outcome.ok_bind]
  have hrecord := hgather _ rfl
  unfold ofJson toJson Json.Record.ofJson
  rw [Outcome.ok_bind, hrecord]
  rfl

theorem Draft.ordered_of_put {draft next : Draft} {key : String} {value : Json}
    (h : draft.put key value = .ok next) (hd : draft.rest.fieldFilters.Ordered) :
    next.rest.fieldFilters.Ordered := by
  unfold Draft.put at h
  split at h
  case h_5 =>
    obtain ⟨filters, hfilters, hnext⟩ := Outcome.bind_eq_ok.1 h
    exact Except.ok.inj hnext ▸ FieldFilters.ordered_of_ofJson hfilters
  case h_7 => exact Except.ok.inj h ▸ hd
  all_goals
    obtain ⟨_, -, hnext⟩ := Outcome.bind_eq_ok.1 h
    exact Except.ok.inj hnext ▸ hd

/-- A type that was read has its field filters in order, so what is written of it is read back. -/
theorem ordered_of_ofJson {value : Json} {d : Descriptor} (h : ofJson value = .ok d) :
    d.fieldFilters.Ordered := by
  obtain ⟨record, -, hrecord⟩ := Outcome.bind_eq_ok.1 h
  obtain ⟨draft, hdraft, hresult⟩ := Outcome.bind_eq_ok.1 hrecord
  have hordered : draft.rest.fieldFilters.Ordered :=
    Outcome.of_foldlM_eq_ok (p := fun draft => draft.rest.fieldFilters.Ordered)
      (fun _ _ _ => Draft.ordered_of_put) hdraft List.Pairwise.nil
  split at hresult
  · exact absurd hresult (by simp [throw, throwThe, MonadExceptOf.throw])
  · exact absurd hresult (by simp [throw, throwThe, MonadExceptOf.throw])
  · obtain ⟨_, -, hd⟩ := Outcome.bind_eq_ok.1 hresult
    exact Except.ok.inj hd ▸ hordered

end Descriptor

namespace Overrides

theorem ofJson_toJson {o : Overrides} (h : o.fieldFilters.Ordered) : ofJson o.toJson = .ok o := by
  have hgather : (⟨"Overrides", ["template", "field_filters", "pipeline"],
      [("template", .object o.template), ("field_filters", o.fieldFilters.toJson),
        ("pipeline", FieldFilters.referencesJson o.pipeline)], none⟩ : Json.Record).gather {} put =
      .ok o := by
    unfold Json.Record.gather
    simp only [List.foldlM_cons, List.foldlM_nil, put, Json.decodeMembers,
      FieldFilters.ofJson_toJson h, FieldFilters.decodeList_referencesJson, Outcome.ok_bind]
    rfl
  unfold ofJson toJson Json.Record.ofJson
  rw [Outcome.ok_bind, hgather]
  rfl

end Overrides

end Reshape

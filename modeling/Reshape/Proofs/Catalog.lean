import Reshape.Catalog
import Reshape.Proofs.Engine.Build

namespace Reshape.Catalog

/-- The check passes sound types that differ in their ids from each other and from those before. -/
theorem checkFrom_eq_ok {seen : List String} {ds : List Descriptor} :
    checkFrom seen ds = .ok () ↔
      (∀ d ∈ ds, d.validate = .ok ()) ∧ Fresh seen (ds.map Descriptor.id) := by
  -- the ids that were seen grow from type to type
  induction ds generalizing seen with
  | nil => simp [checkFrom]
  | cons d ds ih =>
    rw [List.map_cons, fresh_cons, List.forall_mem_cons, checkFrom]
    cases hvalid : d.validate with
    | error e => simp
    | ok u =>
      by_cases hid : d.id ∈ seen
      · simp [hid]
      · simp [hid, ih]

theorem checked_of_parse {format : Format} {text : String} {types : List Descriptor}
    (h : parse format text = .ok types) : checkFrom [] types = .ok () := by
  obtain ⟨document, -, hdocument⟩ := Outcome.bind_eq_ok.1 h
  obtain ⟨items, -, hitems⟩ := Outcome.bind_eq_ok.1 hdocument
  obtain ⟨found, -, hfound⟩ := Outcome.bind_eq_ok.1 hitems
  obtain ⟨⟨⟩, hchecked, htypes⟩ := Outcome.bind_eq_ok.1 hfound
  exact Except.ok.inj htypes ▸ hchecked

variable {files : Files} {name : String} {types : List Descriptor}

theorem load_eq_ok : load files name = .ok types ↔ ∃ format text,
    Format.ofFileName? name = some format ∧ files.text? name = some text ∧
      parse format text = .ok types := by
  unfold load
  cases Format.ofFileName? name with
  | none => simp
  | some format =>
    cases files.text? name with
    | none => simp
    | some text => simp [Outcome.mapError_eq_ok]

theorem has_of_load (h : load files name = .ok types) : files.has name = true := by
  obtain ⟨format, text, -, htext, -⟩ := load_eq_ok.1 h
  unfold Files.text? at htext
  unfold Files.has
  cases hfind : files.find? name with
  | none =>
    rw [hfind] at htext
    exact absurd htext (by simp)
  | some entry => rfl

theorem exists_build_of_load (h : load files name = .ok types) (switches : Switches) :
    ∃ engine, Engine.build { types, switches } = .ok engine := by
  obtain ⟨format, text, -, -, hparse⟩ := load_eq_ok.1 h
  obtain ⟨hvalid, hfresh⟩ := checkFrom_eq_ok.1 (checked_of_parse hparse)
  exact Engine.exists_build_iff.2 ⟨hvalid, fresh_iff_nodup.1 hfresh⟩

end Reshape.Catalog

import Reshape.Plan.Build
import Reshape.Proofs.Outcome

namespace Reshape.Plan

theorem build_eq_ok {registry : Filter.Registry} {d : Descriptor} {o : Overrides} {plan : Plan} :
    build registry d o = .ok plan ↔ ∃ found fields pipeline,
      sources registry d (effectiveTemplate d o) = .ok found ∧
      found.mapM (bindField registry (mergedFilters d o)) = .ok fields ∧
      registry.bindAll (d.pipeline ++ o.pipeline) = .ok pipeline ∧
      plan = ⟨d.id, o.fingerprint, fields, pipeline⟩ := by
  unfold build
  simp only [Outcome.bind_eq_ok, pure, Except.pure, Except.ok.injEq, exists_and_left]
  constructor
  · rintro ⟨found, hs, fields, hf, pipeline, hp, rfl⟩
    exact ⟨found, hs, fields, hf, pipeline, hp, rfl⟩
  · rintro ⟨found, hs, fields, hf, pipeline, hp, rfl⟩
    exact ⟨found, hs, fields, hf, pipeline, hp, rfl⟩

theorem key_of_build {registry : Filter.Registry} {d : Descriptor} {o : Overrides} {plan : Plan}
    (h : build registry d o = .ok plan) :
    plan.typeId = d.id ∧ plan.fingerprint = o.fingerprint := by
  obtain ⟨found, fields, pipeline, -, -, -, rfl⟩ := build_eq_ok.1 h
  exact ⟨rfl, rfl⟩

/-- The fields of a plan. The pipeline of the overrides has no part in them. -/
def boundFields (registry : Filter.Registry) (d : Descriptor) (o : Overrides) :
    Except BuildError (List Field) :=
  (sources registry d (effectiveTemplate d o)).bind fun found =>
    found.mapM (bindField registry (mergedFilters d o))

theorem build_eq_boundFields (registry : Filter.Registry) (d : Descriptor) (o : Overrides) :
    build registry d o = (boundFields registry d o).bind fun fields =>
      (registry.bindAll (d.pipeline ++ o.pipeline)).map fun pipeline =>
        ⟨d.id, o.fingerprint, fields, pipeline⟩ := by
  unfold build boundFields
  cases sources registry d (effectiveTemplate d o) with
  | error error => rfl
  | ok found =>
    simp only [Outcome.ok_bind, Except.bind]
    cases found.mapM (bindField registry (mergedFilters d o)) with
    | error error => rfl
    | ok fields => cases registry.bindAll (d.pipeline ++ o.pipeline) <;> rfl

theorem bindAll_append (registry : Filter.Registry) (front back : List Filter.Reference) :
    registry.bindAll (front ++ back) = (registry.bindAll front).bind fun bounds =>
      (registry.bindAll back).map (bounds ++ ·) := by
  unfold Filter.Registry.bindAll
  rw [List.mapM_append]
  cases front.mapM registry.bind with
  | error error => rfl
  | ok bounds => cases back.mapM registry.bind <;> rfl

end Reshape.Plan

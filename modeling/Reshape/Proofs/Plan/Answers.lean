import Reshape.Proofs.Plan.Precedence
import Reshape.Proofs.Plan.Run
import Reshape.Proofs.Template.Known

namespace Reshape

namespace Pipeline

theorem exists_refusal_of_run {field : String} {filters : List Filter.Bound} {value : Json}
    {error : Error} (h : run field filters value = .error error) :
    ∃ filter cause, error = .filterFailed field filter cause := by
  induction filters generalizing value with
  | nil => exact absurd h (by simp [run])
  | cons bound rest ih =>
    unfold run at h
    split at h
    · exact ih h
    · next cause _ => exact ⟨bound.reference.name, cause, (Except.error.inj h).symm⟩

end Pipeline

namespace Plan

/-- A source finds the filters that it names. Filters behind it are bound to the field. -/
def Source.Finds (registry : Filter.Registry) : Source → Prop
  | .template e => e.AllKnown registry.contains
  | .declared _ => True
  | .convention _ => True

/-- What a run of a plan may come to. -/
inductive Answers (plan : Plan) : Except Error Json.Members → Prop where
  | fields (members : Json.Members) : Answers plan (.ok members)
  | refused {field : Field} (h : field ∈ plan.fields) (filter : String) (cause : Filter.Failure) :
      Answers plan (.error (.filterFailed field.name filter cause))

variable {plan : Plan} {registry : Filter.Registry} {switches : Switches} {c : Container}

theorem Answers.ne_build {result : Except Error Json.Members} (h : plan.Answers result)
    (fault : BuildError) : result ≠ .error (.build fault) := by
  cases h with
  | fields members => simp
  | refused _ filter cause => simp

theorem Answers.isBuildError {error : Error} (h : plan.Answers (.error error)) :
    error.isBuildError = false := by
  cases h with
  | refused _ filter cause => rfl

theorem Source.refuses_of_evaluate {ctx : Template.Context} {source : Source} {error : Error}
    (hfinds : source.Finds ctx.registry) (h : source.evaluate ctx c = .error error) :
    ctx.Refuses error := by
  cases source with
  | template e => exact Template.Expr.refuses_of_evaluate hfinds h
  | declared path => exact absurd h (by simp [Source.evaluate])
  | convention path => exact absurd h (by simp [Source.evaluate])

theorem Field.exists_refusal_of_value? {field : Field} {pipeline : List Filter.Bound}
    {error : Error} (hfinds : field.source.Finds registry)
    (h : field.value? pipeline registry switches c = .error error) :
    ∃ filter cause, error = .filterFailed field.name filter cause := by
  rw [value?_eq] at h
  split at h
  · next failed hfailed =>
    have hrefuses := Source.refuses_of_evaluate hfinds hfailed
    exact Except.error.inj h ▸ hrefuses
  · exact Pipeline.exists_refusal_of_run (Outcome.map_eq_error.1 h)
  · split at h
    · exact Pipeline.exists_refusal_of_run (Outcome.map_eq_error.1 h)
    · exact absurd h (by simp)

theorem answers_run (hfinds : ∀ field ∈ plan.fields, field.source.Finds registry)
    (switches : Switches) (c : Container) : plan.Answers (plan.run registry switches c) := by
  cases h : plan.run registry switches c with
  | ok members => exact .fields members
  | error error =>
    obtain ⟨before, field, behind, hfields, -, hfield⟩ := run_eq_error_iff.1 h
    have hmem : field ∈ plan.fields := hfields ▸ by simp
    rw [run_only] at hfield
    obtain ⟨filter, cause, rfl⟩ :=
      Field.exists_refusal_of_value? (hfinds field hmem) (Outcome.map_eq_error.1 hfield)
    exact .refused hmem filter cause

theorem allKnown_of_tree {value : Json} {e : Template.Expr} (h : tree registry value = .ok e) :
    e.AllKnown registry.contains := by
  unfold tree at h
  split at h
  · exact Template.allKnown_of_readWith h
  · obtain rfl := Except.ok.inj h
    exact Template.Expr.allKnown_literal _

theorem finds_of_settleAlone {name : String} {value : Json} {found : String × Source}
    (h : settleAlone registry (name, .template value) = .ok found) : found.2.Finds registry := by
  obtain ⟨-, e, he, hsource⟩ := settleAlone_template_eq_ok h
  rw [hsource]
  exact allKnown_of_tree he

theorem finds_of_declaredSource {d : Descriptor} {own : Reshape.Field} {found : String × Source}
    (h : declaredSource d own = .ok found) : found.2.Finds registry := by
  unfold declaredSource at h
  split at h
  · obtain ⟨path, -, rfl⟩ := Outcome.map_eq_ok.1 h
    trivial
  · obtain rfl := Except.ok.inj h
    trivial

theorem finds_of_sources {d : Descriptor} {template : Json.Members}
    {found : List (String × Source)} (h : sources registry d template = .ok found)
    {entry : String × Source} (he : entry ∈ found) : entry.2.Finds registry := by
  by_cases ht : template = []
  · rw [sources_of_eq_nil ht] at h
    obtain ⟨own, -, hown⟩ := Outcome.mem_of_mapM_eq_ok h he
    exact finds_of_declaredSource hown
  · rw [sources_of_ne_nil ht] at h
    obtain ⟨origin, horigin, hsettled⟩ := Outcome.mem_of_mapM_eq_ok h he
    rcases List.mem_append.1 horigin with hown | hextra
    · obtain ⟨own, -, rfl⟩ := List.mem_map.1 hown
      unfold ownOrigin at hsettled
      cases hget : template.get? own.name with
      | some value =>
        rw [hget] at hsettled
        exact finds_of_settleAlone hsettled
      | none =>
        rw [hget] at hsettled
        obtain rfl := Except.ok.inj hsettled
        trivial
    · obtain ⟨⟨key, value⟩, -, rfl⟩ := List.mem_map.1 hextra
      exact finds_of_settleAlone hsettled

theorem finds_of_build {d : Descriptor} {o : Overrides} (h : build registry d o = .ok plan)
    {field : Field} (hfield : field ∈ plan.fields) : field.source.Finds registry := by
  obtain ⟨found, fields, pipeline, hs, hf, -, rfl⟩ := build_eq_ok.1 h
  obtain ⟨rfl, -⟩ := bindFields_eq_ok hf
  exact finds_of_sources hs (List.mem_map_of_mem hfield)

theorem answers_of_build {d : Descriptor} {o : Overrides} (h : build registry d o = .ok plan)
    (switches : Switches) (c : Container) : plan.Answers (plan.run registry switches c) :=
  answers_run (fun _ => finds_of_build h) switches c

end Plan

end Reshape

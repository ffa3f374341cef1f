import Reshape.Proofs.Plan.Failure
import Reshape.Proofs.Plan.Run

namespace Reshape

namespace Pipeline

open Reshape.Filter (Bound Reference Registry)

variable {registry : Registry}

theorem run_append (field : String) (front back : List Bound) (value : Json) :
    run field (front ++ back) value = (run field front value).bind (run field back) := by
  induction front generalizing value with
  | nil => rfl
  | cons bound front ih =>
    simp only [List.cons_append, run]
    cases bound.apply value with
    | error cause => rfl
    | ok changed => exact ih changed

def through (registry : Registry) (field : String) (references : List Reference) (value : Json) :
    Except Error Json :=
  references.foldlM (fun value r => registry.apply field r.name value r.arguments) value

theorem run_eq_through {references : List Reference} {bounds : List Bound}
    (h : registry.bindAll references = .ok bounds) (field : String) (value : Json) :
    run field bounds value = through registry field references value := by
  obtain ⟨hreferences, hfilters⟩ := Plan.binds_of_bindAll h
  subst hreferences
  clear h
  unfold through
  induction bounds generalizing value with
  | nil => rfl
  | cons bound bounds ih =>
    have hget := hfilters bound List.mem_cons_self
    have hbehind : ∀ b ∈ bounds, registry.get b.reference.name = .ok b.run :=
      fun other hother => hfilters other (List.mem_cons_of_mem _ hother)
    simp only [List.map_cons, List.foldlM_cons, run, Registry.apply, hget, Bound.apply]
    cases bound.run value bound.reference.arguments with
    | error cause => rfl
    | ok changed => exact ih changed hbehind

/-- Filters that are there refuse a value only by one of them, the first that does. -/
theorem through_eq_error_iff {references : List Reference}
    (hthere : ∀ r ∈ references, registry.contains r.name = true) {field : String} {value : Json}
    {error : Error} : through registry field references value = .error error ↔
      ∃ front r back passed filter cause, references = front ++ r :: back ∧
        through registry field front value = .ok passed ∧ registry.get r.name = .ok filter ∧
        filter passed r.arguments = .error cause ∧ error = .filterFailed field r.name cause := by
  unfold through
  rw [Outcome.foldlM_eq_error]
  constructor
  · rintro ⟨front, r, back, passed, hsplit, hfront, hr⟩
    obtain ⟨filter, hget⟩ : ∃ filter, registry.get r.name = .ok filter := by
      have hcontains := hthere r (hsplit ▸ by simp)
      unfold Registry.contains at hcontains
      obtain ⟨filter, hfilter⟩ := Option.isSome_iff_exists.1 hcontains
      exact ⟨filter, by rw [Registry.get, hfilter]⟩
    rw [Registry.apply, hget] at hr
    obtain ⟨cause, hcause, rfl⟩ := Outcome.mapError_eq_error.1 hr
    exact ⟨front, r, back, passed, filter, cause, hsplit, hfront, hget, hcause, rfl⟩
  · rintro ⟨front, r, back, passed, filter, cause, hsplit, hfront, hget, hcause, rfl⟩
    refine ⟨front, r, back, passed, hsplit, hfront, ?_⟩
    rw [Registry.apply, hget]
    exact Outcome.mapError_eq_error.2 ⟨cause, hcause, rfl⟩

/-- What more filters make of a result: of its values one by one under the keys they have, or the
refusal of the first value that one of them refuses. What failed without them fails with them. -/
structure Extends (registry : Registry) (references : List Reference)
    (result extended : Except Error Json.Members) : Prop where
  passes : ∀ members out, result = .ok members → (extended = .ok out ↔
    List.Forall₂ (fun entry changed => changed.1 = entry.1 ∧
      through registry entry.1 references entry.2 = .ok changed.2) members out)
  keys : ∀ members out, result = .ok members → extended = .ok out → out.keys = members.keys
  refuses : ∀ members error, result = .ok members → (extended = .error error ↔
    ∃ before key value behind, members = before ++ (key, value) :: behind ∧
      (∀ earlier ∈ before, ∃ changed,
        through registry earlier.1 references earlier.2 = .ok changed) ∧
      ∃ front r back passed filter cause, references = front ++ r :: back ∧
        through registry key front value = .ok passed ∧ registry.get r.name = .ok filter ∧
        filter passed r.arguments = .error cause ∧ error = .filterFailed key r.name cause)
  fails : ∀ error, result = .error error → ∃ other, extended = .error other

def throughAll (registry : Registry) (references : List Reference) (members : Json.Members) :
    Except Error Json.Members :=
  members.mapM fun (key, value) => (through registry key references value).map (key, ·)

theorem extends_of_throughAll {references : List Reference}
    (hthere : ∀ r ∈ references, registry.contains r.name = true)
    {result extended : Except Error Json.Members}
    (hok : ∀ members, result = .ok members →
      extended = throughAll registry references members)
    (herror : ∀ error, result = .error error → ∃ other, extended = .error other) :
    Extends registry references result extended := by
  -- one entry: its key stays, and its value goes through the filters
  have hentry : ∀ entry changed : String × Json,
      (through registry entry.1 references entry.2).map (entry.1, ·) = .ok changed ↔
        changed.1 = entry.1 ∧ through registry entry.1 references entry.2 = .ok changed.2 := by
    rintro ⟨key, value⟩ ⟨key', value'⟩
    rw [Outcome.map_eq_ok]
    constructor
    · rintro ⟨found, hfound, hpair⟩
      obtain ⟨rfl, rfl⟩ := Prod.mk.inj hpair
      exact ⟨rfl, hfound⟩
    · rintro ⟨rfl, hfound⟩
      exact ⟨value', hfound, rfl⟩
  have hpasses : ∀ members out, result = .ok members → (extended = .ok out ↔
      List.Forall₂ (fun entry changed => changed.1 = entry.1 ∧
        through registry entry.1 references entry.2 = .ok changed.2) members out) := by
    intro members out hresult
    rw [hok members hresult, throughAll, Outcome.mapM_eq_ok]
    simp only [hentry]
  refine ⟨hpasses, fun members out hresult hout => ?_, fun members error hresult => ?_, herror⟩
  · rw [hok members hresult] at hout
    refine Outcome.map_eq_of_mapM_eq_ok (fun entry changed h => ?_) hout
    exact ((hentry entry changed).1 h).1
  · rw [hok members hresult, throughAll, Outcome.mapM_eq_error]
    simp only [Outcome.map_eq_error, Outcome.map_eq_ok, through_eq_error_iff hthere]
    constructor
    · rintro ⟨before, ⟨key, value⟩, behind, hmembers, hbefore, hrefused⟩
      refine ⟨before, key, value, behind, hmembers, fun earlier he => ?_, hrefused⟩
      obtain ⟨entry, changed, hchanged, -⟩ := hbefore earlier he
      exact ⟨changed, hchanged⟩
    · rintro ⟨before, key, value, behind, hmembers, hbefore, hrefused⟩
      refine ⟨before, (key, value), behind, hmembers, fun earlier he => ?_, hrefused⟩
      obtain ⟨changed, hchanged⟩ := hbefore earlier he
      exact ⟨(earlier.1, changed), changed, hchanged, rfl⟩

end Pipeline

namespace Plan

open Reshape.Filter (Bound Reference)

variable {registry : Filter.Registry} {switches : Switches} {c : Container}

/-- A field that is left out stays out, and any other goes on from the value it had. -/
theorem value?_append (field : Field) (pipeline more : List Bound) (registry : Filter.Registry)
    (switches : Switches) (c : Container) :
    field.value? (pipeline ++ more) registry switches c =
      (field.value? pipeline registry switches c).bind fun
        | some value => (Pipeline.run field.name more value).map some
        | none => .ok none := by
  unfold Field.value?
  cases field.raw? registry switches c with
  | error error => rfl
  | ok raw =>
    cases raw with
    | none => rfl
    | some raw =>
      simp only [← List.append_assoc, Pipeline.run_append field.name (field.filters ++ pipeline)]
      cases Pipeline.run field.name (field.filters ++ pipeline) raw <;> rfl

theorem runFields_append_of_ok {pipeline : List Bound} {fields : List Field}
    {members : Json.Members} (h : runFields pipeline registry switches c fields = .ok members)
    (more : List Bound) :
    runFields (pipeline ++ more) registry switches c fields =
      members.mapM fun (key, value) => (Pipeline.run key more value).map (key, ·) := by
  -- fields without a value have no member, so the members lag behind the fields
  induction fields generalizing members with
  | nil =>
    obtain rfl := Except.ok.inj h
    rfl
  | cons field fields ih =>
    rw [runFields] at h ⊢
    rw [value?_append]
    cases hvalue : field.value? pipeline registry switches c with
    | error error =>
      rw [hvalue] at h
      exact absurd h (by simp)
    | ok found =>
      rw [hvalue] at h
      obtain ⟨rest, hrest, rfl⟩ := Outcome.map_eq_ok.1 h
      cases found with
      | none =>
        simp only [Except.bind, ih hrest, Option.map_none, Option.toList_none, List.nil_append]
        exact congrFun Except.map_id _
      | some value =>
        simp only [Except.bind, ih hrest, Option.map_some, Option.toList_some,
          List.singleton_append, Outcome.mapM_cons_eq]
        cases Pipeline.run field.name more value <;> rfl

theorem exists_runFields_append_of_error {pipeline : List Bound} {fields : List Field}
    {error : Error} (h : runFields pipeline registry switches c fields = .error error)
    (more : List Bound) :
    ∃ other, runFields (pipeline ++ more) registry switches c fields = .error other := by
  induction fields with
  | nil => exact absurd h (by simp [runFields])
  | cons field fields ih =>
    rw [runFields] at h ⊢
    cases hmore : field.value? (pipeline ++ more) registry switches c with
    | error other => exact ⟨other, rfl⟩
    | ok found =>
      -- the field has a value without the filters too, so the failure is behind it
      rw [value?_append] at hmore
      obtain ⟨before, hbefore, -⟩ := Outcome.bind_eq_ok.1 hmore
      rw [hbefore] at h
      obtain ⟨other, hother⟩ := ih (Outcome.map_eq_error.1 h)
      exact ⟨other, by rw [hother]; rfl⟩

def appending (o : Overrides) (references : List Reference) : Overrides :=
  { o with pipeline := o.pipeline ++ references }

def withMore (plan : Plan) (fingerprint : String) (more : List Bound) : Plan :=
  { plan with fingerprint, pipeline := plan.pipeline ++ more }

/-- Filters that are there change neither whether a plan is built nor anything before them. -/
theorem build_appending {references : List Reference} {more : List Bound}
    (h : registry.bindAll references = .ok more) (d : Descriptor) (o : Overrides) :
    build registry d (appending o references) =
      (build registry d o).map (·.withMore (appending o references).fingerprint more) := by
  have hfields : boundFields registry d (appending o references) = boundFields registry d o := rfl
  have hpipeline : registry.bindAll (d.pipeline ++ (appending o references).pipeline) =
      (registry.bindAll (d.pipeline ++ o.pipeline)).map (· ++ more) := by
    have happend : d.pipeline ++ (appending o references).pipeline =
        (d.pipeline ++ o.pipeline) ++ references := (List.append_assoc _ _ _).symm
    rw [happend, bindAll_append, h]
    cases registry.bindAll (d.pipeline ++ o.pipeline) <;> rfl
  rw [build_eq_boundFields, build_eq_boundFields, hfields, hpipeline]
  cases boundFields registry d o with
  | error error => rfl
  | ok fields => cases registry.bindAll (d.pipeline ++ o.pipeline) <;> rfl

/-- The run of a plan with more filters against the run without them. -/
theorem extends_run {references : List Reference}
    (hthere : ∀ r ∈ references, registry.contains r.name = true) {more : List Bound}
    (hmore : registry.bindAll references = .ok more) (plan : Plan) (fingerprint : String)
    (switches : Switches) (c : Container) :
    Pipeline.Extends registry references (plan.run registry switches c)
      ((plan.withMore fingerprint more).run registry switches c) := by
  refine Pipeline.extends_of_throughAll hthere (fun members h => ?_) fun error h =>
    exists_runFields_append_of_error h more
  have hrun := runFields_append_of_ok h more
  simp only [Pipeline.run_eq_through hmore] at hrun
  exact hrun

end Plan

end Reshape

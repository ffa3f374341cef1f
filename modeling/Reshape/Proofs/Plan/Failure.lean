import Reshape.Proofs.Plan.Precedence

namespace Reshape.Plan

open Outcome (fault?)

def fieldNames (d : Descriptor) (template : Json.Members) : List String :=
  d.ownNames ++ template.keys.filter (· ∉ d.ownNames)

/-- Why the source of a field cannot be had: the template text in force for it cannot be read, or
without a template the path that the type declares. -/
def sourceFault? (registry : Filter.Registry) (d : Descriptor) (template : Json.Members)
    (name : String) : Option BuildError :=
  if template.isEmpty then
    ((d.field? name).bind Reshape.Field.source).bind fun text =>
      (fault? (Template.readPath text)).map (BuildError.forField name)
  else match template.get? name with
    | some (.string text) =>
      (fault? (Template.readWith registry text)).map (BuildError.forField name)
    | _ => none

/-- The first of some references to a filter that the registry does not have. -/
def unknown? (registry : Filter.Registry) (references : List Filter.Reference) :
    Option Filter.Reference :=
  references.find? fun r => !registry.contains r.name

def filterFault? (registry : Filter.Registry) (d : Descriptor) (o : Overrides) (name : String) :
    Option BuildError :=
  (unknown? registry (filtersOf d o name)).map fun r => .unknownFilter r.name (some name)

def pipelineFault? (registry : Filter.Registry) (d : Descriptor) (o : Overrides) :
    Option BuildError :=
  (unknown? registry (d.pipeline ++ o.pipeline)).map fun r => .unknownFilter r.name none

/-- The first fault of the sources in the order of the fields, else of the fields' filters in that
order, else of the pipeline. -/
def firstFault? (registry : Filter.Registry) (d : Descriptor) (o : Overrides) :
    Option BuildError :=
  let template := effectiveTemplate d o
  let names := fieldNames d template
  (names.findSome? (sourceFault? registry d template)).or
    ((names.findSome? (filterFault? registry d o)).or (pipelineFault? registry d o))

/-- What it takes to build a plan. -/
structure Buildable (registry : Filter.Registry) (d : Descriptor) (o : Overrides) : Prop where
  templates : effectiveTemplate d o ≠ [] →
    ∀ name text, (name, Json.string text) ∈ effectiveTemplate d o →
      ∃ e, Template.readWith registry text = .ok e
  paths : effectiveTemplate d o = [] → ∀ own ∈ d.fields, ∀ text, own.source = some text →
    ∃ path, Path.parse text.toList = .ok path
  filters : ∀ name ∈ fieldNames d (effectiveTemplate d o), ∀ r ∈ filtersOf d o name,
    registry.contains r.name = true
  pipeline : ∀ r ∈ d.pipeline ++ o.pipeline, registry.contains r.name = true

def withFilters (d : Descriptor) (filters : FieldFilters) : Descriptor :=
  { d with fieldFilters := filters }

def overridingFilters (o : Overrides) (filters : FieldFilters) : Overrides :=
  { o with fieldFilters := filters }

theorem fault?_tree (registry : Filter.Registry) (value : Json) :
    fault? (tree registry value) = match value with
      | .string text => fault? (Template.readWith registry text)
      | _ => none := by
  cases value <;> rfl

theorem fault?_settleAlone_template (registry : Filter.Registry) (name : String) (value : Json) :
    fault? (settleAlone registry (name, .template value)) =
      (fault? (tree registry value)).map (BuildError.forField name) := by
  unfold settleAlone
  rw [Outcome.fault?_map, Outcome.fault?_mapError]

theorem sourceFault?_of_get? {registry : Filter.Registry} {d : Descriptor}
    {template : Json.Members} {name : String} {value : Json}
    (h : template.get? name = some value) :
    sourceFault? registry d template name =
      (fault? (tree registry value)).map (BuildError.forField name) := by
  have hne : template.isEmpty = false := by
    cases template with
    | nil => exact absurd h (by simp [Json.Members.get?])
    | cons entry rest => rfl
  unfold sourceFault?
  rw [hne, h, fault?_tree]
  cases value <;> rfl

theorem fault?_settleAlone {registry : Filter.Registry} {d : Descriptor}
    {template : Json.Members} (hne : template ≠ []) (ht : template.keys.Nodup)
    {entry : String × Origin} (h : entry ∈ origins d template) :
    fault? (settleAlone registry entry) = sourceFault? registry d template entry.1 := by
  rcases List.mem_append.1 h with hown | hextra
  · obtain ⟨own, -, rfl⟩ := List.mem_map.1 hown
    unfold ownOrigin
    cases hget : template.get? own.name with
    | some value => rw [sourceFault?_of_get? hget, fault?_settleAlone_template]
    | none =>
      have hfalse : template.isEmpty = false := by simpa using hne
      unfold sourceFault?
      rw [hfalse, hget]
      rfl
  · obtain ⟨⟨key, value⟩, hmem, rfl⟩ := List.mem_map.1 hextra
    have hget : template.get? key = some value :=
      Sorted.get?_of_mem ht (List.mem_filter.1 hmem).1
    rw [sourceFault?_of_get? hget, fault?_settleAlone_template]

theorem fault?_declaredSource {registry : Filter.Registry} {d : Descriptor}
    (hd : d.ownNames.Nodup) {own : Reshape.Field} (h : own ∈ d.fields) :
    fault? (declaredSource d own) = sourceFault? registry d [] own.name := by
  have hfield : d.field? own.name = some own := Descriptor.field?_of_mem hd h
  unfold declaredSource sourceFault?
  rw [hfield]
  cases hs : own.source with
  | none => simp [hs, fault?]
  | some text => simp [hs]

theorem fault?_sources (registry : Filter.Registry) {d : Descriptor} {template : Json.Members}
    (hd : d.ownNames.Nodup) (ht : template.keys.Nodup) :
    fault? (sources registry d template) =
      (fieldNames d template).findSome? (sourceFault? registry d template) := by
  by_cases hne : template = []
  · subst hne
    have hnames : fieldNames d [] = d.fields.map Reshape.Field.name := List.append_nil _
    rw [sources_of_eq_nil rfl, Outcome.fault?_mapM, hnames, List.findSome?_map]
    exact Outcome.findSome?_congr fun own hown => fault?_declaredSource hd hown
  · have hnames : fieldNames d template = (origins d template).map Prod.fst :=
      (map_fst_origins d template).symm
    rw [sources_of_ne_nil hne, Outcome.fault?_mapM, hnames, List.findSome?_map]
    exact Outcome.findSome?_congr fun entry hentry => fault?_settleAlone hne ht hentry

theorem fault?_bind (registry : Filter.Registry) (r : Filter.Reference) :
    fault? (registry.bind r) =
      if registry.contains r.name then none else some (.unknownFilter r.name none) := by
  unfold Filter.Registry.bind Filter.Registry.get Filter.Registry.contains
  rw [Outcome.fault?_map]
  cases registry.filters.get? r.name <;> rfl

theorem fault?_bindAll (registry : Filter.Registry) (references : List Filter.Reference) :
    fault? (registry.bindAll references) =
      (unknown? registry references).map fun r => .unknownFilter r.name none := by
  unfold Filter.Registry.bindAll unknown?
  rw [Outcome.fault?_mapM]
  induction references with
  | nil => rfl
  | cons r rest ih =>
    rw [List.findSome?_cons, fault?_bind]
    cases h : registry.contains r.name with
    | true => simpa [h] using ih
    | false => simp [h]

theorem fault?_bindField (registry : Filter.Registry) (d : Descriptor) {o : Overrides}
    (ho : o.fieldFilters.keys.Nodup) (entry : String × Source) :
    fault? (bindField registry (mergedFilters d o) entry) =
      filterFault? registry d o entry.1 := by
  unfold bindField filterFault?
  rw [Outcome.fault?_map, Outcome.fault?_mapError, get?_mergedFilters ho, fault?_bindAll,
    Option.map_map]
  rfl

theorem fault?_bindFields (registry : Filter.Registry) (d : Descriptor) {o : Overrides}
    (ho : o.fieldFilters.keys.Nodup) (found : List (String × Source)) :
    fault? (found.mapM (bindField registry (mergedFilters d o))) =
      (found.map Prod.fst).findSome? (filterFault? registry d o) := by
  rw [Outcome.fault?_mapM, List.findSome?_map]
  exact Outcome.findSome?_congr fun entry _ => fault?_bindField registry d ho entry

theorem fault?_build {registry : Filter.Registry} {d : Descriptor} {o : Overrides}
    (hd : d.validate = .ok ()) (hkd : d.KeysOnce) (hko : o.KeysOnce) :
    fault? (build registry d o) = firstFault? registry d o := by
  have hsources := fault?_sources registry (Descriptor.nodup_ownNames hd)
    (nodup_effectiveTemplate hkd hko)
  unfold firstFault? build
  simp only [← hsources]
  -- the stages of a build, each of which has its own part of the first fault
  cases hs : sources registry d (effectiveTemplate d o) with
  | error error => rfl
  | ok found =>
    have hnames : found.map Prod.fst = fieldNames d (effectiveTemplate d o) := map_fst_sources hs
    have hfields := fault?_bindFields registry d hko.fieldFilters found
    rw [hnames] at hfields
    rw [← hfields]
    cases hf : found.mapM (bindField registry (mergedFilters d o)) with
    | error error =>
      simp only [bind, Except.bind, hf]
      rfl
    | ok fields =>
      have hpipeline : pipelineFault? registry d o =
          fault? (registry.bindAll (d.pipeline ++ o.pipeline)) :=
        (fault?_bindAll registry _).symm
      rw [hpipeline]
      simp only [bind, Except.bind, hf]
      cases registry.bindAll (d.pipeline ++ o.pipeline) <;> rfl

/-- A template that cannot be read says so of no field, so that its fault can bear the name of
one. -/
theorem field?_of_readKnown {known : String → Bool} {text : String} {error : BuildError}
    (h : fault? (Template.readKnown known text) = some error) (name : String) :
    (error.forField name).field? = some name := by
  unfold Template.readKnown at h
  rw [Outcome.fault?_mapError] at h
  obtain ⟨rejection, -, rfl⟩ := Option.map_eq_some_iff.1 h
  cases rejection <;> rfl

theorem field?_of_readPath {text : String} {error : BuildError}
    (h : fault? (Template.readPath text) = some error) (name : String) :
    (error.forField name).field? = some name := by
  unfold Template.readPath at h
  rw [Outcome.fault?_mapError] at h
  obtain ⟨place, -, rfl⟩ := Option.map_eq_some_iff.1 h
  rfl

theorem field?_of_sourceFault? {registry : Filter.Registry} {d : Descriptor}
    {template : Json.Members} {name : String} {error : BuildError}
    (h : sourceFault? registry d template name = some error) : error.field? = some name := by
  unfold sourceFault? at h
  split at h
  · obtain ⟨text, -, hmap⟩ := Option.bind_eq_some_iff.1 h
    obtain ⟨cause, hcause, rfl⟩ := Option.map_eq_some_iff.1 hmap
    exact field?_of_readPath hcause name
  · split at h
    · obtain ⟨cause, hcause, rfl⟩ := Option.map_eq_some_iff.1 h
      exact field?_of_readKnown hcause name
    · exact absurd h (by simp)

theorem field?_of_filterFault? {registry : Filter.Registry} {d : Descriptor} {o : Overrides}
    {name : String} {error : BuildError} (h : filterFault? registry d o name = some error) :
    error.field? = some name := by
  obtain ⟨r, -, rfl⟩ := Option.map_eq_some_iff.1 h
  rfl

theorem field?_of_pipelineFault? {registry : Filter.Registry} {d : Descriptor} {o : Overrides}
    {error : BuildError} (h : pipelineFault? registry d o = some error) :
    error.field? = none := by
  obtain ⟨r, -, rfl⟩ := Option.map_eq_some_iff.1 h
  rfl

/-- Fields that share a value share its fault, each under its own name. -/
theorem isSome_sourceFault?_congr (registry : Filter.Registry) (d : Descriptor)
    {template : Json.Members} (hne : template ≠ []) {name other : String}
    (h : template.get? name = template.get? other) :
    (sourceFault? registry d template name).isSome =
      (sourceFault? registry d template other).isSome := by
  have hfalse : template.isEmpty = false := by simpa using hne
  unfold sourceFault?
  rw [hfalse, h]
  cases template.get? other with
  | none => rfl
  | some value => cases value <;> simp

theorem unknown?_eq_none {registry : Filter.Registry} {references : List Filter.Reference} :
    unknown? registry references = none ↔ ∀ r ∈ references, registry.contains r.name = true := by
  simp [unknown?]

theorem exists_bindAll {registry : Filter.Registry} {references : List Filter.Reference}
    (h : ∀ r ∈ references, registry.contains r.name = true) :
    ∃ bounds, registry.bindAll references = .ok bounds := by
  rw [← Outcome.fault?_eq_none, fault?_bindAll, unknown?_eq_none.2 h]
  rfl

theorem sourceFault?_eq_none_of_template {registry : Filter.Registry} {d : Descriptor}
    {template : Json.Members} (hne : template ≠ []) (ht : template.keys.Nodup) :
    (∀ name ∈ fieldNames d template, sourceFault? registry d template name = none) ↔
      ∀ name text, (name, Json.string text) ∈ template →
        ∃ e, Template.readWith registry text = .ok e := by
  constructor
  · intro h name text hmem
    have hget : template.get? name = some (.string text) := Sorted.get?_of_mem ht hmem
    have hname : name ∈ fieldNames d template := by
      have hkey : name ∈ template.keys := List.mem_map_of_mem hmem
      by_cases hown : name ∈ d.ownNames
      · exact List.mem_append_left _ hown
      · exact List.mem_append_right _ (List.mem_filter.2 ⟨hkey, by simpa using hown⟩)
    have hnone := h name hname
    rw [sourceFault?_of_get? hget, Option.map_eq_none_iff] at hnone
    exact Outcome.fault?_eq_none.1 hnone
  · intro h name _
    cases hget : template.get? name with
    | none =>
      have hfalse : template.isEmpty = false := by simpa using hne
      unfold sourceFault?
      rw [hfalse, hget]
      rfl
    | some value =>
      rw [sourceFault?_of_get? hget, fault?_tree]
      cases value with
      | string text =>
        have hread : fault? (Template.readWith registry text) = none :=
          Outcome.fault?_eq_none.2 (h name text (Sorted.mem_of_get? hget))
        simp only [hread, Option.map_none]
      | _ => rfl

theorem fault?_readPath_eq_none {text : String} :
    fault? (Template.readPath text) = none ↔ ∃ path, Path.parse text.toList = .ok path := by
  unfold Template.readPath
  rw [Outcome.fault?_mapError, Option.map_eq_none_iff, Outcome.fault?_eq_none]

theorem sourceFault?_eq_none_of_paths {registry : Filter.Registry} {d : Descriptor}
    (hd : d.ownNames.Nodup) :
    (∀ name ∈ fieldNames d [], sourceFault? registry d [] name = none) ↔
      ∀ own ∈ d.fields, ∀ text, own.source = some text →
        ∃ path, Path.parse text.toList = .ok path := by
  have hnames : fieldNames d [] = d.fields.map Reshape.Field.name := List.append_nil _
  have hfault : ∀ own ∈ d.fields, sourceFault? registry d [] own.name =
      own.source.bind fun text =>
        (fault? (Template.readPath text)).map (BuildError.forField own.name) := by
    intro own hown
    unfold sourceFault?
    rw [Descriptor.field?_of_mem hd hown]
    rfl
  rw [hnames, List.forall_mem_map]
  refine forall₂_congr fun own hown => ?_
  rw [hfault own hown]
  cases own.source with
  | none => simp
  | some text => simp [fault?_readPath_eq_none]

theorem firstFault?_eq_none_iff {registry : Filter.Registry} {d : Descriptor} {o : Overrides}
    (hd : d.ownNames.Nodup) (ht : (effectiveTemplate d o).keys.Nodup) :
    firstFault? registry d o = none ↔ Buildable registry d o := by
  -- the three places in which faults are looked for, one after another
  have hsources : (∀ name ∈ fieldNames d (effectiveTemplate d o),
      sourceFault? registry d (effectiveTemplate d o) name = none) ↔
      (effectiveTemplate d o ≠ [] → ∀ name text,
        (name, Json.string text) ∈ effectiveTemplate d o →
          ∃ e, Template.readWith registry text = .ok e) ∧
      (effectiveTemplate d o = [] → ∀ own ∈ d.fields, ∀ text, own.source = some text →
        ∃ path, Path.parse text.toList = .ok path) := by
    by_cases hne : effectiveTemplate d o = []
    · rw [hne, sourceFault?_eq_none_of_paths hd]
      simp
    · rw [sourceFault?_eq_none_of_template hne ht]
      simp [hne]
  have hfilters : (∀ name ∈ fieldNames d (effectiveTemplate d o),
      filterFault? registry d o name = none) ↔
      ∀ name ∈ fieldNames d (effectiveTemplate d o), ∀ r ∈ filtersOf d o name,
        registry.contains r.name = true := by
    refine forall₂_congr fun name _ => ?_
    rw [filterFault?, Option.map_eq_none_iff, unknown?_eq_none]
  have hpipeline : pipelineFault? registry d o = none ↔
      ∀ r ∈ d.pipeline ++ o.pipeline, registry.contains r.name = true := by
    rw [pipelineFault?, Option.map_eq_none_iff, unknown?_eq_none]
  unfold firstFault?
  simp only [Option.or_eq_none_iff, List.findSome?_eq_none_iff, hsources, hfilters, hpipeline]
  constructor
  · rintro ⟨⟨htemplates, hpaths⟩, hf, hp⟩
    exact ⟨htemplates, hpaths, hf, hp⟩
  · rintro ⟨htemplates, hpaths, hf, hp⟩
    exact ⟨⟨htemplates, hpaths⟩, hf, hp⟩

/-- Filter lists count for the fields of the plan only; what else the overrides say of filters
shows in their fingerprint. -/
theorem build_withFilters {registry : Filter.Registry} {d : Descriptor} {o : Overrides}
    (hko : o.KeysOnce) {filters others : FieldFilters} (hothers : others.keys.Nodup)
    (h : ∀ name ∈ fieldNames d (effectiveTemplate d o),
      filtersOf (withFilters d filters) (overridingFilters o others) name = filtersOf d o name) :
    build registry (withFilters d filters) (overridingFilters o others) =
      (build registry d o).map fun plan =>
        { plan with fingerprint := (overridingFilters o others).fingerprint } := by
  have hs : sources registry (withFilters d filters)
      (effectiveTemplate (withFilters d filters) (overridingFilters o others)) =
      sources registry d (effectiveTemplate d o) := rfl
  unfold build
  rw [hs]
  cases hfound : sources registry d (effectiveTemplate d o) with
  | error error => rfl
  | ok found =>
    have hnames : found.map Prod.fst = fieldNames d (effectiveTemplate d o) :=
      map_fst_sources hfound
    have hfields : found.mapM (bindField registry
          (mergedFilters (withFilters d filters) (overridingFilters o others))) =
        found.mapM (bindField registry (mergedFilters d o)) := by
      refine Outcome.mapM_congr fun entry hentry => ?_
      have hname := h entry.1 (hnames ▸ List.mem_map_of_mem hentry)
      unfold bindField
      rw [get?_mergedFilters hothers, get?_mergedFilters hko.fieldFilters, hname]
    have hpipeline : (withFilters d filters).pipeline ++ (overridingFilters o others).pipeline =
        d.pipeline ++ o.pipeline := rfl
    simp only [bind, Except.bind, hfields, hpipeline]
    cases found.mapM (bindField registry (mergedFilters d o)) with
    | error error => rfl
    | ok fields => cases registry.bindAll (d.pipeline ++ o.pipeline) <;> rfl

/-- When a build fails and how. -/
structure Faults (registry : Filter.Registry) (d : Descriptor) (o : Overrides) : Prop where
  succeeds : (∃ plan, build registry d o = .ok plan) ↔ Buildable registry d o
  fails : ∀ error, build registry d o = .error error ↔ firstFault? registry d o = some error
  /-- Of fields with one expression the first is named. -/
  ofSource : ∀ error,
    (fieldNames d (effectiveTemplate d o)).findSome?
        (sourceFault? registry d (effectiveTemplate d o)) = some error →
      ∃ before name behind, fieldNames d (effectiveTemplate d o) = before ++ name :: behind ∧
        sourceFault? registry d (effectiveTemplate d o) name = some error ∧
        error.field? = some name ∧ (effectiveTemplate d o ≠ [] → ∀ earlier ∈ before,
          (effectiveTemplate d o).get? earlier ≠ (effectiveTemplate d o).get? name)
  ofFilter : ∀ name error, filterFault? registry d o name = some error →
    error.field? = some name
  ofPipeline : ∀ error, pipelineFault? registry d o = some error → error.field? = none
  /-- Filters for fields that the plan does not have change nothing. -/
  stray : ∀ filters others : FieldFilters, others.keys.Nodup →
    (∀ name ∈ fieldNames d (effectiveTemplate d o),
      filtersOf (withFilters d filters) (overridingFilters o others) name = filtersOf d o name) →
    build registry (withFilters d filters) (overridingFilters o others) =
      (build registry d o).map fun plan =>
        { plan with fingerprint := (overridingFilters o others).fingerprint }

theorem faults_of_build {registry : Filter.Registry} {d : Descriptor} {o : Overrides}
    (hd : d.validate = .ok ()) (hkd : d.KeysOnce) (hko : o.KeysOnce) : Faults registry d o := by
  have hown : d.ownNames.Nodup := Descriptor.nodup_ownNames hd
  have ht : (effectiveTemplate d o).keys.Nodup := nodup_effectiveTemplate hkd hko
  have hfault : fault? (build registry d o) = firstFault? registry d o :=
    fault?_build hd hkd hko
  refine ⟨?_, ?_, ?_, fun _ _ => field?_of_filterFault?, fun _ => field?_of_pipelineFault?,
    fun _ _ hothers h => build_withFilters hko hothers h⟩
  · rw [← Outcome.fault?_eq_none, hfault, firstFault?_eq_none_iff hown ht]
  · intro error
    rw [← Outcome.fault?_eq_some, hfault]
  · intro error h
    obtain ⟨before, name, behind, horder, hname, hbefore⟩ := List.findSome?_eq_some_iff.1 h
    refine ⟨before, name, behind, horder, hname, field?_of_sourceFault? hname, ?_⟩
    intro hne earlier hearlier hsame
    -- an earlier field with the same value would have the fault
    have hsome := isSome_sourceFault?_congr registry d hne hsame
    rw [hbefore earlier hearlier, hname] at hsome
    exact absurd hsome (by simp)

/-- A type with faults of all kinds: one expression in two fields names a filter that is not there,
and so do the filters of a field and the pipeline. -/
def invoice : Descriptor :=
  { id := "Invoice"
    fields := [
      { name := "total", source := some "sum..net" }, { name := "due" }, { name := "paid" }]
    template := [("paid", .string "{{ day | shout }}"), ("due", .string "{{ day | shout }}")]
    fieldFilters := [("nowhere", [⟨"ghost", []⟩]), ("total", [⟨"round", []⟩, ⟨"loud", []⟩])]
    pipeline := [⟨"trim", []⟩, ⟨"quiet", []⟩] }

def dated : Overrides := { template := [("due", .string "{{ day }}")] }

def datedUnfiltered : Overrides := { dated with fieldFilters := [("total", [])] }

/-- One fault after another is told as those before it are overridden. -/
theorem faults_of_build_invoice :
    build .builtin invoice {} = .error (.unknownFilter "shout" (some "due")) ∧
      build .builtin invoice dated = .error (.unknownFilter "loud" (some "total")) ∧
      build .builtin invoice datedUnfiltered = .error (.unknownFilter "quiet" none) := by
  have hd : invoice.validate = .ok () := rfl
  have hkeys : invoice.KeysOnce := ⟨by decide, by decide⟩
  refine ⟨?_, ?_, ?_⟩
  · exact ((faults_of_build hd hkeys ⟨by decide, by decide⟩).fails _).2 (by decide +kernel)
  · exact ((faults_of_build hd hkeys ⟨by decide, by decide⟩).fails _).2 (by decide +kernel)
  · exact ((faults_of_build hd hkeys ⟨by decide, by decide⟩).fails _).2 (by decide +kernel)

end Reshape.Plan

import Reshape.Filter.Builtin
import Reshape.Proofs.Descriptor
import Reshape.Proofs.Plan.Build
import Reshape.Proofs.Plan.Sources

namespace Reshape.Plan

/-- References in order, each with the filter that the registry has under its name. -/
structure Binds (registry : Filter.Registry) (references : List Filter.Reference)
    (bound : List Filter.Bound) : Prop where
  references : bound.map Filter.Bound.reference = references
  filters : ∀ b ∈ bound, registry.get b.reference.name = .ok b.run

/-- The list of a call, if it names the field, and else that of the type. -/
def filtersOf (d : Descriptor) (o : Overrides) (name : String) : List Filter.Reference :=
  ((o.fieldFilters.get? name).or (d.fieldFilters.get? name)).getD []

/-- The template of the call, unless it is empty; else that of the type. -/
inductive InForce (d : Descriptor) (o : Overrides) : Json.Members → Prop
  | call (h : o.template ≠ []) : InForce d o o.template
  | type (h : o.template = []) : InForce d o d.template

/-- The key that a field is given, or else its name in the notation of the type. -/
def keyOf (d : Descriptor) (own : Reshape.Field) : String :=
  match own.key with
  | some key => key
  | none => d.naming.apply own.name

/-- The source that a field has by its key alone, which is never divided. -/
def byKey (d : Descriptor) (own : Reshape.Field) : Source := .convention ⟨[.key (keyOf d own)]⟩

theorem byKey_eq_conventionSource (d : Descriptor) (own : Reshape.Field) :
    byKey d own = conventionSource d own := by
  unfold byKey keyOf conventionSource Field.conventionKey
  cases own.key <;> rfl

/-- What a field is read from when a template is in force. -/
structure Templated (registry : Filter.Registry) (d : Descriptor) (template : Json.Members)
    (field : Field) : Prop where
  named : ∀ value, template.get? field.name = some value →
    ∃ e, tree registry value = .ok e ∧ field.source = .template e
  unnamed : template.get? field.name = none →
    ∃ own, d.field? field.name = some own ∧ field.source = byKey d own

/-- What a field is read from when no template is in force. -/
structure Declared (d : Descriptor) (own : Reshape.Field) (field : Field) : Prop where
  declared : ∀ text, own.source = some text →
    ∃ path, Path.parse text.toList = .ok path ∧ field.source = .declared path
  undeclared : own.source = none → field.source = byKey d own

/-- The rule of two branches, with a template in force. -/
structure Precedence (registry : Filter.Registry) (d : Descriptor) (o : Overrides)
    (template : Json.Members) (plan : Plan) : Prop where
  names : plan.fields.map Field.name =
    d.ownNames ++ template.keys.filter (· ∉ d.ownNames)
  distinct : (plan.fields.map Field.name).Nodup
  templated : template ≠ [] → ∀ field ∈ plan.fields, Templated registry d template field
  declared : template = [] → ∀ field ∈ plan.fields,
    ∃ own, d.field? field.name = some own ∧ Declared d own field
  filters : ∀ field ∈ plan.fields, Binds registry (filtersOf d o field.name) field.filters
  pipeline : Binds registry (d.pipeline ++ o.pipeline) plan.pipeline
  typeId : plan.typeId = d.id
  fingerprint : plan.fingerprint = o.fingerprint

theorem binds_of_bindAll {registry : Filter.Registry} {references : List Filter.Reference}
    {bound : List Filter.Bound} (h : registry.bindAll references = .ok bound) :
    Binds registry references bound := by
  have hall := Outcome.mapM_eq_ok.1 h
  clear h
  induction hall with
  | nil => exact ⟨rfl, by simp⟩
  | cons hb _ ih =>
    obtain ⟨filter, hget, rfl⟩ := Outcome.map_eq_ok.1 hb
    refine ⟨by simp [ih.references], ?_⟩
    intro b hmem
    rcases List.mem_cons.1 hmem with rfl | hmem
    · exact hget
    · exact ih.filters b hmem

theorem get?_mergedFilters {d : Descriptor} {o : Overrides} (ho : o.fieldFilters.keys.Nodup)
    (name : String) : ((mergedFilters d o).get? name).getD [] = filtersOf d o name := by
  rw [mergedFilters, Sorted.get?_insertAll _ ho, filtersOf]

theorem bindField_eq_ok {registry : Filter.Registry} {filters : FieldFilters}
    {entry : String × Source} {field : Field} (h : bindField registry filters entry = .ok field) :
    (field.name, field.source) = entry ∧
      Binds registry ((filters.get? entry.1).getD []) field.filters := by
  obtain ⟨bound, hb, rfl⟩ := Outcome.map_eq_ok.1 h
  exact ⟨rfl, binds_of_bindAll (Outcome.mapError_eq_ok.1 hb)⟩

theorem bindFields_eq_ok {registry : Filter.Registry} {filters : FieldFilters}
    {found : List (String × Source)} {fields : List Field}
    (h : found.mapM (bindField registry filters) = .ok fields) :
    fields.map (fun field => (field.name, field.source)) = found ∧
      ∀ field ∈ fields, Binds registry ((filters.get? field.name).getD []) field.filters := by
  have hall := Outcome.mapM_eq_ok.1 h
  clear h
  induction hall with
  | nil => simp
  | cons hb _ ih =>
    obtain ⟨rfl, hfilters⟩ := bindField_eq_ok hb
    refine ⟨by simp [ih.1], ?_⟩
    intro field hmem
    rcases List.mem_cons.1 hmem with rfl | hmem
    · exact hfilters
    · exact ih.2 field hmem

theorem fst_of_settleAlone {registry : Filter.Registry} {entry : String × Origin}
    {found : String × Source} (h : settleAlone registry entry = .ok found) :
    found.1 = entry.1 := by
  obtain ⟨name, origin⟩ := entry
  cases origin with
  | settled source => exact congrArg Prod.fst (Except.ok.inj h).symm
  | template value =>
    obtain ⟨e, -, rfl⟩ := Outcome.map_eq_ok.1 h
    rfl

theorem settleAlone_template_eq_ok {registry : Filter.Registry} {name : String} {value : Json}
    {found : String × Source} (h : settleAlone registry (name, .template value) = .ok found) :
    found.1 = name ∧ ∃ e, tree registry value = .ok e ∧ found.2 = .template e := by
  obtain ⟨e, he, rfl⟩ := Outcome.map_eq_ok.1 h
  exact ⟨rfl, e, Outcome.mapError_eq_ok.1 he, rfl⟩

theorem map_fst_origins (d : Descriptor) (template : Json.Members) :
    (origins d template).map Prod.fst =
      d.ownNames ++ template.keys.filter (· ∉ d.ownNames) := by
  have hextra : (extraEntries d template).map Prod.fst =
      template.keys.filter (· ∉ d.ownNames) := by
    unfold extraEntries Json.Members.keys
    rw [List.filter_map]
    refine congrArg (List.map Prod.fst) (List.filter_congr fun entry _ => ?_)
    rw [Bool.eq_iff_iff]
    simp [Descriptor.field?_eq_none]
  unfold origins ownOrigins
  rw [List.map_append, List.map_map, List.map_map, ← hextra]
  rfl

theorem templated_of_mem {registry : Filter.Registry} {d : Descriptor} {template : Json.Members}
    (hd : d.ownNames.Nodup) (ht : template.keys.Nodup) {field : Field}
    {entry : String × Origin} (hentry : entry ∈ origins d template)
    (h : settleAlone registry entry = .ok (field.name, field.source)) :
    Templated registry d template field := by
  have hname : field.name = entry.1 := fst_of_settleAlone h
  -- an own field may be named by the template or not, an extra key always is
  rcases List.mem_append.1 hentry with hown | hextra
  · obtain ⟨own, hmem, rfl⟩ := List.mem_map.1 hown
    have hfield : d.field? field.name = some own := by
      rw [hname]
      exact Descriptor.field?_of_mem hd hmem
    unfold ownOrigin at h hname
    cases hget : template.get? own.name with
    | some value =>
      rw [hget] at h
      have hget' : template.get? field.name = some value := by rw [hname, hget]
      obtain ⟨-, e, he, hsource⟩ := settleAlone_template_eq_ok h
      refine ⟨fun other ho => ?_, fun hn => absurd (hget'.symm.trans hn) (by simp)⟩
      obtain rfl : value = other := Option.some.inj (hget'.symm.trans ho)
      exact ⟨e, he, hsource⟩
    | none =>
      rw [hget] at h
      have hget' : template.get? field.name = none := by rw [hname, hget]
      refine ⟨fun other ho => absurd (hget'.symm.trans ho) (by simp), fun _ => ⟨own, hfield, ?_⟩⟩
      exact (congrArg Prod.snd (Except.ok.inj h)).symm.trans (byKey_eq_conventionSource d own).symm
  · obtain ⟨⟨key, value⟩, hmem, rfl⟩ := List.mem_map.1 hextra
    have hget : template.get? field.name = some value := by
      rw [hname]
      exact Sorted.get?_of_mem ht (List.mem_filter.1 hmem).1
    obtain ⟨-, e, he, hsource⟩ := settleAlone_template_eq_ok h
    refine ⟨fun other ho => ?_, fun hn => absurd (hget.symm.trans hn) (by simp)⟩
    obtain rfl : value = other := Option.some.inj (hget.symm.trans ho)
    exact ⟨e, he, hsource⟩

theorem fst_of_declaredSource {d : Descriptor} {own : Reshape.Field} {found : String × Source}
    (h : declaredSource d own = .ok found) : found.1 = own.name := by
  unfold declaredSource at h
  split at h
  · obtain ⟨path, -, rfl⟩ := Outcome.map_eq_ok.1 h
    rfl
  · exact congrArg Prod.fst (Except.ok.inj h).symm

theorem declared_of_declaredSource {d : Descriptor} {own : Reshape.Field} {field : Field}
    (h : declaredSource d own = .ok (field.name, field.source)) : Declared d own field := by
  unfold declaredSource at h
  cases hs : own.source with
  | some text =>
    rw [hs] at h
    obtain ⟨path, hp, he⟩ := Outcome.map_eq_ok.1 h
    have hparse : Path.parse text.toList = .ok path :=
      Outcome.mapError_eq_ok.1 (Outcome.mapError_eq_ok.1 hp)
    refine ⟨fun other ho => ?_, fun hn => absurd (hs.symm.trans hn) (by simp)⟩
    obtain rfl : text = other := Option.some.inj (hs.symm.trans ho)
    exact ⟨path, hparse, (congrArg Prod.snd he).symm⟩
  | none =>
    rw [hs] at h
    refine ⟨fun other ho => absurd (hs.symm.trans ho) (by simp), fun _ => ?_⟩
    exact (congrArg Prod.snd (Except.ok.inj h)).symm.trans (byKey_eq_conventionSource d own).symm

/-- Nothing that a template leaves to a field comes from its path. -/
theorem origins_withoutSources (d : Descriptor) (template : Json.Members) :
    origins d.withoutSources template = origins d template := by
  have hown : ownOrigins d.withoutSources template = ownOrigins d template := by
    unfold ownOrigins Descriptor.withoutSources
    rw [List.map_map]
    rfl
  have hextra : extraEntries d.withoutSources template = extraEntries d template := by
    unfold extraEntries
    refine List.filter_congr fun entry _ => ?_
    exact Descriptor.isNone_field?_withoutSources d entry.1
  unfold origins
  rw [hown, hextra]

theorem build_withoutSources {registry : Filter.Registry} {d : Descriptor} {o : Overrides}
    (ht : effectiveTemplate d o ≠ []) :
    build registry d.withoutSources o = build registry d o := by
  have hs : sources registry d.withoutSources (effectiveTemplate d o) =
      sources registry d (effectiveTemplate d o) := by
    rw [sources_of_ne_nil ht, sources_of_ne_nil ht, origins_withoutSources]
  have he : effectiveTemplate d.withoutSources o = effectiveTemplate d o := rfl
  have hm : mergedFilters d.withoutSources o = mergedFilters d o := rfl
  have hp : d.withoutSources.pipeline = d.pipeline := rfl
  have hid : d.withoutSources.id = d.id := rfl
  unfold build
  rw [he, hs, hm, hp, hid]

/-- The fields of a plan are named for the origins, in the same order. -/
theorem map_fst_sources {registry : Filter.Registry} {d : Descriptor} {template : Json.Members}
    {found : List (String × Source)} (h : sources registry d template = .ok found) :
    found.map Prod.fst = d.ownNames ++ template.keys.filter (· ∉ d.ownNames) := by
  by_cases ht : template = []
  · rw [sources_of_eq_nil ht] at h
    rw [Outcome.map_eq_of_mapM_eq_ok (fun own found => fst_of_declaredSource) h, ht]
    exact (List.append_nil _).symm
  · rw [sources_of_ne_nil ht] at h
    rw [Outcome.map_eq_of_mapM_eq_ok (fun entry found => fst_of_settleAlone) h, map_fst_origins]

theorem inForce_effectiveTemplate (d : Descriptor) (o : Overrides) :
    InForce d o (effectiveTemplate d o) := by
  unfold effectiveTemplate
  split
  · next h => exact .type (List.isEmpty_iff.1 h)
  · next h => exact .call fun hnil => h (List.isEmpty_iff.2 hnil)

theorem nodup_effectiveTemplate {d : Descriptor} {o : Overrides} (hd : d.KeysOnce)
    (ho : o.KeysOnce) : (effectiveTemplate d o).keys.Nodup := by
  unfold effectiveTemplate
  split
  · exact hd.template
  · exact ho.template

/-- Names that only the template has are new, so no name comes twice. -/
theorem nodup_names {d : Descriptor} {template : Json.Members} (hd : d.ownNames.Nodup)
    (ht : template.keys.Nodup) :
    (d.ownNames ++ template.keys.filter (· ∉ d.ownNames)).Nodup := by
  refine List.nodup_append.2 ⟨hd, ht.filter _, ?_⟩
  intro own hown other hother heq
  have hnew : other ∉ d.ownNames := by simpa using (List.mem_filter.1 hother).2
  exact hnew (heq ▸ hown)

theorem precedence_of_build {registry : Filter.Registry} {d : Descriptor} {o : Overrides}
    {plan : Plan} (hd : d.validate = .ok ()) (hkd : d.KeysOnce) (hko : o.KeysOnce)
    (h : build registry d o = .ok plan) : Precedence registry d o (effectiveTemplate d o) plan := by
  have hown : d.ownNames.Nodup := Descriptor.nodup_ownNames hd
  have htemplate : (effectiveTemplate d o).keys.Nodup := nodup_effectiveTemplate hkd hko
  obtain ⟨found, fields, pipeline, hs, hf, hp, rfl⟩ := build_eq_ok.1 h
  -- binding filters keeps the names and sources that were found
  obtain ⟨rfl, hfilters⟩ := bindFields_eq_ok hf
  have hnames := map_fst_sources hs
  rw [List.map_map] at hnames
  refine ⟨hnames, hnames ▸ nodup_names hown htemplate, ?_, ?_, ?_, binds_of_bindAll hp, rfl, rfl⟩
  · intro ht field hmem
    rw [sources_of_ne_nil ht] at hs
    have hpair : (field.name, field.source) ∈ fields.map fun f => (f.name, f.source) :=
      List.mem_map.2 ⟨field, hmem, rfl⟩
    obtain ⟨entry, hentry, he⟩ := Outcome.mem_of_mapM_eq_ok hs hpair
    exact templated_of_mem hown htemplate hentry he
  · intro ht field hmem
    rw [sources_of_eq_nil ht] at hs
    have hpair : (field.name, field.source) ∈ fields.map fun f => (f.name, f.source) :=
      List.mem_map.2 ⟨field, hmem, rfl⟩
    obtain ⟨own, hmemOwn, he⟩ := Outcome.mem_of_mapM_eq_ok hs hpair
    have hname : field.name = own.name := fst_of_declaredSource he
    refine ⟨own, ?_, declared_of_declaredSource he⟩
    rw [hname]
    exact Descriptor.field?_of_mem hown hmemOwn
  · intro field hmem
    rw [← get?_mergedFilters hko.fieldFilters]
    exact hfilters field hmem

/-- A plan that could be built follows the rule, and under a template it is the plan of every type
that differs in declared paths only, whether those can be read or not. -/
theorem precedence {registry : Filter.Registry} {d : Descriptor} {o : Overrides} {plan : Plan}
    (hd : d.validate = .ok ()) (hkd : d.KeysOnce) (hko : o.KeysOnce)
    (h : build registry d o = .ok plan) :
    ∃ template, InForce d o template ∧ Precedence registry d o template plan ∧
      (template ≠ [] → ∀ d' : Descriptor, d'.withoutSources = d.withoutSources →
        build registry d' o = .ok plan) := by
  refine ⟨_, inForce_effectiveTemplate d o, precedence_of_build hd hkd hko h, ?_⟩
  intro ht d' hd'
  have ht' : effectiveTemplate d' o ≠ [] := by
    have he : d'.template = d.template :=
      show d'.withoutSources.template = d.withoutSources.template from hd' ▸ rfl
    unfold effectiveTemplate at ht ⊢
    rwa [he]
  -- both build the plan of the type without paths
  rw [← build_withoutSources ht', hd', build_withoutSources ht, h]

/-- A type with a path that cannot be read, a field that no template names and a template of its
own. -/
def profile : Descriptor :=
  { id := "Profile"
    fields := [{ name := "name", source := some "full..name" }, { name := "Age.Years" }]
    naming := .snakeCase
    template := [("name", .string "{{ nick }}"), ("kind", .ofNat 3)]
    fieldFilters := [("name", [⟨"upper", []⟩])] }

/-- A call with a template, no filters for a field that has some, and a filter for all fields. -/
def overridden : Overrides :=
  { template := [("name", .string "{{ first }} {{ last }}"), ("rank", .ofNat 1)]
    fieldFilters := [("name", [])]
    pipeline := [⟨"trim", []⟩] }

theorem precedence_profile :
    ∃ plan, build .builtin profile overridden = .ok plan ∧
        Precedence .builtin profile overridden overridden.template plan ∧
        build .builtin profile.withoutSources overridden = .ok plan := by
  have hd : profile.validate = .ok () := rfl
  have hok : (build .builtin profile overridden).isOk = true := by decide +kernel
  obtain ⟨plan, hb⟩ := Outcome.exists_eq_ok_of_isOk hok
  obtain ⟨template, hforce, hrule, hsame⟩ :=
    precedence hd ⟨by decide, by decide⟩ ⟨by decide, by decide⟩ hb
  cases hforce with
  | call hne => exact ⟨plan, hb, hrule, hsame hne _ rfl⟩
  | type hnil => exact absurd hnil (by decide)

end Reshape.Plan

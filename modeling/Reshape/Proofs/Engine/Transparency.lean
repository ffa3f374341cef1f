import Reshape.Proofs.Engine.Calls

namespace Reshape.Engine

/-- What is kept under a key: what building its type came to, under overrides, among those given,
that have its fingerprint. -/
def BuiltFrom (engine : Engine) (used : List Overrides) (entry : Plan.Key × Plan.Outcome) : Prop :=
  ∃ d, engine.descriptor? entry.1.typeId = some d ∧ ∃ o ∈ used,
    o.fingerprint = entry.1.fingerprint ∧ entry.2 = Plan.build engine.registry d o

def Kept (engine : Engine) (used : List Overrides) : Prop :=
  ∀ entry ∈ engine.cache.entries, BuiltFrom engine used entry

variable {engine : Engine} {used : List Overrides}

theorem kept_of_entries_eq_nil (h : engine.cache.entries = []) : Kept engine used := by
  simp [Kept, h]

theorem kept_plan (hk : Kept engine used) (id : String) {o : Overrides} (ho : o ∈ used) :
    Kept (engine.plan id o).2 used := by
  cases hd : engine.descriptor? id with
  | none => rwa [plan_eq_of_unknown hd]
  | some d =>
    rw [plan_eq_of_descriptor? hd]
    intro entry he
    rcases Plan.Cache.mem_getOrBuild he with rfl | he
    · exact ⟨d, hd, o, ho, rfl, rfl⟩
    · exact hk entry he

theorem kept_serve (hk : Kept engine used) {call : Call} (hu : call.overrides ⊆ used) :
    Kept (engine.serve call).2 used := by
  cases call with
  | resolve id c o => exact kept_plan hk id (hu (by simp [Call.overrides]))
  | plan id o => exact kept_plan hk id (hu (by simp [Call.overrides]))
  | invalidate id => exact fun entry he => hk entry (Plan.Cache.mem_invalidate he)
  | clearCache => exact kept_of_entries_eq_nil rfl

theorem overridesOf_cons_subset {call : Call} {run : List Call}
    (h : overridesOf (call :: run) ⊆ used) : call.overrides ⊆ used ∧ overridesOf run ⊆ used := by
  unfold overridesOf at h
  rw [List.flatMap_cons] at h
  exact List.append_subset.1 h

theorem kept_after (hk : Kept engine used) {run : List Call} (hu : overridesOf run ⊆ used) :
    Kept (engine.after run) used := by
  induction run generalizing engine with
  | nil => exact hk
  | cons call run ih =>
    obtain ⟨hc, hr⟩ := overridesOf_cons_subset hu
    exact ih (kept_serve hk hc) hr

theorem exists_cache_after (engine : Engine) (run : List Call) :
    ∃ cache : Plan.Cache, cache.enabled = engine.cache.enabled ∧
      engine.after run = { engine with cache } := by
  induction run generalizing engine with
  | nil => exact ⟨engine.cache, rfl, rfl⟩
  | cons call run ih =>
    obtain ⟨cache, he, hs⟩ := exists_cache_serve engine call
    obtain ⟨cache', he', hr⟩ := ih { engine with cache }
    exact ⟨cache', he'.trans he, by rw [after, hs, hr]⟩

/-- Overrides that are used with a cache differ in their fingerprints. -/
def ToldApart (engine : Engine) (used : List Overrides) : Prop :=
  engine.cache.enabled = true →
    ∀ o ∈ used, ∀ o' ∈ used, o.fingerprint = o'.fingerprint → o = o'

theorem toldApart_serve (hd : ToldApart engine used) (call : Call) :
    ToldApart (engine.serve call).2 used := by
  obtain ⟨cache, he, hs⟩ := exists_cache_serve engine call
  rw [hs]
  exact fun h => hd (he ▸ h)

/-- An entry that is found was built from the very overrides of the look-up, since no others among
those used have their fingerprint. -/
theorem plan_eq_freshPlan (hk : Kept engine used) (hd : ToldApart engine used) (id : String)
    {o : Overrides} (ho : o ∈ used) : (engine.plan id o).1 = engine.freshPlan id o := by
  unfold freshPlan
  cases hid : engine.descriptor? id with
  | none => rw [plan_eq_of_unknown hid]
  | some d =>
    rw [plan_eq_of_descriptor? hid, Plan.Cache.getOrBuild_fst]
    cases hf : engine.cache.find? ⟨id, o.fingerprint⟩ with
    | none => rfl
    | some outcome =>
      obtain ⟨d', hid', o', ho', hp, houtcome⟩ := hk _ (Plan.Cache.mem_of_find? hf)
      obtain rfl : d = d' := Option.some.inj (hid.symm.trans hid')
      obtain rfl : o' = o := hd (Plan.Cache.enabled_of_find? hf) o' ho' o ho hp
      exact congrArg (Except.mapError Error.build) houtcome

theorem serve_eq_fresh? (hk : Kept engine used) (hd : ToldApart engine used)
    {call : Call} (hu : call.overrides ⊆ used) :
    [(engine.serve call).1].filter Reply.isLookup = (engine.fresh? call).toList := by
  cases call with
  | resolve id c o =>
    have hp := plan_eq_freshPlan hk hd id (hu (List.mem_singleton.2 rfl))
    obtain ⟨cache, -, hc⟩ := exists_cache_plan engine id o
    simp only [serve, resolve_eq, hp, hc, fresh?]
    rfl
  | plan id o =>
    have hp := plan_eq_freshPlan hk hd id (hu (List.mem_singleton.2 rfl))
    simp only [serve, hp, fresh?]
    rfl
  | invalidate id => rfl
  | clearCache => rfl

theorem lookups_eq_fresh? (hk : Kept engine used) (hd : ToldApart engine used)
    {run : List Call} (hu : overridesOf run ⊆ used) :
    engine.lookups run = run.filterMap engine.fresh? := by
  induction run generalizing engine with
  | nil => rfl
  | cons call run ih =>
    obtain ⟨hc, hr⟩ := overridesOf_cons_subset hu
    -- the invariant holds behind the call, and what is built anew does not see the cache
    have hrest := ih (kept_serve hk hc) (toldApart_serve hd call) hr
    rw [lookups, serve_eq_fresh? hk hd hc, hrest, fresh?_serve]
    cases h : engine.fresh? call with
    | none => simp [h]
    | some reply => simp [h]

/-- No two canonical texts share a digest. -/
def DigestsDiffer (used : List Overrides) : Prop :=
  ∀ o ∈ used, ∀ o' ∈ used,
    Sha256.ofText o.canonical.write = Sha256.ofText o'.canonical.write →
      o.canonical.write = o'.canonical.write

/-- No two canonical values share a text. -/
def TextsDiffer (used : List Overrides) : Prop :=
  ∀ o ∈ used, ∀ o' ∈ used, o.canonical.write = o'.canonical.write → o.canonical = o'.canonical

theorem toldApart_of_differ (hdigest : DigestsDiffer used) (htext : TextsDiffer used) :
    ToldApart engine used := by
  intro _ o ho o' ho' hp
  rw [Overrides.fingerprint_eq_digest, Overrides.fingerprint_eq_digest] at hp
  exact Overrides.canonical_injective (htext o ho o' ho' (hdigest o ho o' ho' hp))

/-- Whether plans are kept makes no difference to running one. -/
theorem runFields_cacheEnabled (pipeline : List Filter.Bound) (registry : Filter.Registry)
    (switches : Switches) (c : Container) (on : Bool) (fields : List Plan.Field) :
    Plan.runFields pipeline registry { switches with cacheEnabled := on } c fields =
      Plan.runFields pipeline registry switches c fields := by
  induction fields with
  | nil => rfl
  | cons field fields ih =>
    have hv : field.value? pipeline registry { switches with cacheEnabled := on } c =
        field.value? pipeline registry switches c := rfl
    simp only [Plan.runFields, hv, ih]

theorem fresh?_cacheEnabled (engine : Engine) (on : Bool) (cache : Plan.Cache) :
    { engine with switches := { engine.switches with cacheEnabled := on }, cache }.fresh? =
      engine.fresh? := by
  funext call
  cases call with
  | resolve id c o =>
    simp only [fresh?, Engine.run, Plan.run, runFields_cacheEnabled]
    rfl
  | plan id o => rfl
  | invalidate id => rfl
  | clearCache => rfl

theorem builtFrom_of_mem_after {parts : Parts} {engine : Engine} (hb : build parts = .ok engine)
    {run : List Call} {entry : Plan.Key × Plan.Outcome}
    (he : entry ∈ (engine.after run).cache.entries) :
    BuiltFrom engine (overridesOf run) entry := by
  obtain ⟨types, -, rfl⟩ := build_eq_ok.1 hb
  have hk := kept_after (kept_of_entries_eq_nil rfl) (List.Subset.refl (overridesOf run)) entry he
  obtain ⟨cache, -, ha⟩ := exists_cache_after _ run
  rwa [ha] at hk

/-- An engine answers the look-ups of a run like the same engine without a cache, which is to build
each plan anew and run it; and what it keeps under a key behind a run was built for that key. -/
theorem cache_transparent {parts : Parts} {engine : Engine} (hb : build parts = .ok engine)
    (run : List Call) :
    (∀ entry ∈ (engine.after run).cache.entries,
      BuiltFrom engine (overridesOf run) entry ∧ ∀ plan, entry.2 = .ok plan →
        plan.typeId = entry.1.typeId ∧ plan.fingerprint = entry.1.fingerprint) ∧
    ∃ plain, build { parts with switches := { parts.switches with cacheEnabled := false } } =
        .ok plain ∧
      (DigestsDiffer (overridesOf run) → TextsDiffer (overridesOf run) →
        engine.lookups run = plain.lookups run ∧
          engine.lookups run = run.filterMap plain.fresh?) := by
  have hkeyed := keyed_of_build hb
  have hbuilt : ∀ entry ∈ (engine.after run).cache.entries,
      BuiltFrom engine (overridesOf run) entry := fun _ => builtFrom_of_mem_after hb
  obtain ⟨types, ht, rfl⟩ := build_eq_ok.1 hb
  constructor
  · intro entry he
    obtain ⟨d, hid, o, ho, hp, houtcome⟩ := hbuilt entry he
    refine ⟨⟨d, hid, o, ho, hp, houtcome⟩, fun plan hplan => ?_⟩
    obtain ⟨htype, hprint⟩ := Plan.key_of_build (houtcome.symm.trans hplan)
    exact ⟨htype.trans (id_of_descriptor? hkeyed hid), hprint.trans hp⟩
  · refine ⟨_, build_eq_ok.2 ⟨types, ht, rfl⟩, fun hdigest htext => ?_⟩
    let cached : Engine :=
      ⟨types, parts.registry, parts.switches, { enabled := parts.switches.cacheEnabled }⟩
    let plain : Engine :=
      ⟨types, parts.registry, { parts.switches with cacheEnabled := false }, { enabled := false }⟩
    have hall : overridesOf run ⊆ overridesOf run := List.Subset.refl _
    have htold : ToldApart cached (overridesOf run) := toldApart_of_differ hdigest htext
    -- without a cache there is nothing to tell apart
    have hnever : ToldApart plain (overridesOf run) := by simp [ToldApart, plain]
    have hcached := lookups_eq_fresh? (kept_of_entries_eq_nil rfl) htold hall
    have hplain := lookups_eq_fresh? (kept_of_entries_eq_nil rfl) hnever hall
    have hfresh : plain.fresh? = cached.fresh? := fresh?_cacheEnabled cached false _
    rw [← hfresh] at hcached
    exact ⟨hcached.trans hplain.symm, hcached⟩

def userParts : Parts :=
  { types := [{ id := "User", fields := [{ name := "id" }] }], registry := .empty }

def renamed : Overrides := { template := [("id", .string "{{ uid }}")] }

/-- Two plans of one type, one of them asked for again behind an invalidation. -/
def userRun : List Call :=
  [.plan "User" {}, .resolve "User" (.ofMembers [("uid", .ofNat 7)]) renamed, .plan "User" {},
    .invalidate "User", .plan "User" renamed]

theorem mem_overridesOf_userRun {o : Overrides} (h : o ∈ overridesOf userRun) :
    o = {} ∨ o = renamed := by
  simp [overridesOf, userRun, Call.overrides] at h
  tauto

theorem cache_transparent_userRun : ∃ engine, build userParts = .ok engine ∧
    DigestsDiffer (overridesOf userRun) ∧ TextsDiffer (overridesOf userRun) ∧
    ∃ plain, build { userParts with
        switches := { userParts.switches with cacheEnabled := false } } = .ok plain ∧
      engine.lookups userRun = plain.lookups userRun := by
  obtain ⟨engine, hb⟩ : ∃ engine, build userParts = .ok engine := ⟨_, rfl⟩
  have hdigest : DigestsDiffer (overridesOf userRun) := by
    unfold DigestsDiffer
    decide +kernel
  have htext : TextsDiffer (overridesOf userRun) := by
    intro o ho o' ho' h
    rcases mem_overridesOf_userRun ho with rfl | rfl <;>
      rcases mem_overridesOf_userRun ho' with rfl | rfl
    · rfl
    · exact absurd h (by decide +kernel)
    · exact absurd h (by decide +kernel)
    · rfl
  obtain ⟨-, plain, hp, h⟩ := cache_transparent hb userRun
  exact ⟨engine, hb, hdigest, htext, plain, hp, (h hdigest htext).1⟩

end Reshape.Engine

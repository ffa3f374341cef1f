import Reshape.Proofs.Engine.Plans
import Reshape.Proofs.Plan.Answers

namespace Reshape.Engine

variable {parts : Parts} {engine : Engine} {used : List Overrides}

theorem toldApart_singleton (engine : Engine) (o : Overrides) : ToldApart engine [o] := by
  intro _ first hfirst second hsecond _
  rw [List.mem_singleton.1 hfirst, List.mem_singleton.1 hsecond]

theorem toldApart_pair {o o' : Overrides} (hprints : o.fingerprint ≠ o'.fingerprint)
    (hu : used ⊆ [o, o']) : ToldApart engine used := by
  have hcases : ∀ other ∈ used, other = o ∨ other = o' := fun other h => by simpa using hu h
  intro _ first hfirst second hsecond h
  rcases hcases first hfirst with rfl | rfl <;> rcases hcases second hsecond with rfl | rfl
  · rfl
  · exact absurd h hprints
  · exact absurd h.symm hprints
  · rfl

theorem freshPlan_of_mem (hb : build parts = .ok engine) {d : Descriptor} (hd : d ∈ parts.types)
    (o : Overrides) :
    engine.freshPlan d.id o = (Plan.build parts.registry d o).mapError .build := by
  unfold freshPlan
  rw [descriptor?_of_mem hb hd, registry_of_build hb]

theorem plan_plan (engine : Engine) (id : String) (o : Overrides) :
    ((engine.plan id o).2.plan id o).1 = (engine.plan id o).1 := by
  cases hid : engine.descriptor? id with
  | none =>
    have hplan := plan_eq_of_unknown hid o
    rw [hplan, hplan]
  | some d =>
    have hplan := plan_eq_of_descriptor? hid o
    have hagain : (engine.plan id o).2.descriptor? id = some d := by
      rw [hplan]
      exact hid
    rw [plan_eq_of_descriptor? hagain, hplan, Plan.Cache.getOrBuild_getOrBuild_fst]

/-- Behind any calls a plan is what building it anew gives, if overrides are told apart. -/
theorem plan_after_eq_freshPlan (hb : build parts = .ok engine) (hd : ToldApart engine used)
    {calls : List Call} (hu : overridesOf calls ⊆ used) (id : String) {o : Overrides}
    (ho : o ∈ used) : ((engine.after calls).plan id o).1 = engine.freshPlan id o := by
  have hkept : Kept (engine.after calls) used :=
    kept_after (kept_of_entries_eq_nil (entries_of_build hb)) hu
  obtain ⟨cache, he, ha⟩ := exists_cache_after engine calls
  rw [ha] at hkept ⊢
  have htold : ToldApart { engine with cache } used := fun h => hd (he ▸ h)
  exact plan_eq_freshPlan hkept htold id ho

/-- Behind any calls a record comes to what the plan built anew makes of it. -/
theorem fst_resolve_after_eq_fresh (hb : build parts = .ok engine) (hd : ToldApart engine used)
    {calls : List Call} (hu : overridesOf calls ⊆ used) (id : String) {o : Overrides}
    (ho : o ∈ used) (c : Container) : ((engine.after calls).resolve id c o).1 =
      (engine.freshPlan id o).bind fun plan => engine.run plan c := by
  obtain ⟨cache, -, ha⟩ := exists_cache_after engine calls
  obtain ⟨behind, -, hp⟩ := exists_cache_plan (engine.after calls) id o
  rw [resolve_eq, plan_after_eq_freshPlan hb hd hu id ho, hp, ha]
  rfl

theorem fst_resolve_eq_fresh (hb : build parts = .ok engine) (id : String) (c : Container)
    (o : Overrides) :
    (engine.resolve id c o).1 = (engine.freshPlan id o).bind fun plan => engine.run plan c := by
  have hnone : overridesOf [] ⊆ [o] := List.nil_subset [o]
  exact fst_resolve_after_eq_fresh hb (toldApart_singleton engine o) hnone id
    (List.mem_singleton_self o) c

/-- Two records mapped each behind calls of its own come to what they come to at once. -/
theorem fst_resolve_after_both (hb : build parts = .ok engine) {o o' : Overrides}
    {calls others : List Call}
    (hd : ToldApart engine (o :: o' :: overridesOf (calls ++ others))) (id : String)
    (c : Container) :
    ((engine.after calls).resolve id c o).1 = (engine.resolve id c o).1 ∧
      ((engine.after others).resolve id c o').1 = (engine.resolve id c o').1 := by
  have hasked : overridesOf calls ++ overridesOf others ⊆
      o :: o' :: overridesOf (calls ++ others) := by
    rw [overridesOf_append]
    exact fun _ h => List.mem_cons_of_mem _ (List.mem_cons_of_mem _ h)
  obtain ⟨hcalls, hothers⟩ := List.append_subset.1 hasked
  rw [fst_resolve_after_eq_fresh hb hd hcalls id List.mem_cons_self,
    fst_resolve_after_eq_fresh hb hd hothers id (List.mem_cons_of_mem _ List.mem_cons_self),
    fst_resolve_eq_fresh hb, fst_resolve_eq_fresh hb]
  exact ⟨rfl, rfl⟩

/-- One plan alone needs nothing to be told apart. -/
theorem plan_after_eq_freshPlan_alone (hb : build parts = .ok engine) {calls : List Call}
    {o : Overrides} (hu : overridesOf calls ⊆ [o]) (id : String) :
    ((engine.after calls).plan id o).1 = engine.freshPlan id o :=
  plan_after_eq_freshPlan hb (toldApart_singleton engine o) hu id (List.mem_singleton_self o)

theorem plan_eq_freshPlan_of_build (hb : build parts = .ok engine) (id : String)
    (o : Overrides) : (engine.plan id o).1 = engine.freshPlan id o := by
  have hnone : overridesOf [] ⊆ [o] := List.nil_subset [o]
  exact plan_after_eq_freshPlan_alone hb hnone id

theorem answers_resolve (hb : build parts = .ok engine) {calls : List Call} {id : String}
    {o : Overrides} {plan : Plan} (h : ((engine.after calls).plan id o).1 = .ok plan)
    (c : Container) : plan.Answers ((engine.after calls).resolve id c o).1 := by
  obtain ⟨d, -, o', -, -, hbuilt⟩ := exists_build_of_plan hb h
  obtain ⟨cache, -, ha⟩ := exists_cache_after engine calls
  obtain ⟨cache', -, ha'⟩ := exists_cache_plan (engine.after calls) id o
  have hregistry : ((engine.after calls).plan id o).2.registry = engine.registry := by
    rw [ha', ha]
  have hresolve : ((engine.after calls).resolve id c o).1 =
      plan.run engine.registry ((engine.after calls).plan id o).2.switches c := by
    rw [resolve_eq, h, ← hregistry]
    rfl
  rw [hresolve]
  exact Plan.answers_of_build hbuilt _ c

theorem answers_resolve_behind (hb : build parts = .ok engine) {calls : List Call} {id : String}
    {o : Overrides} {plan : Plan} (h : ((engine.after calls).plan id o).1 = .ok plan)
    (c : Container) : plan.Answers (((engine.after calls).plan id o).2.resolve id c o).1 := by
  have hbehind : engine.after (calls ++ [.plan id o]) = ((engine.after calls).plan id o).2 :=
    after_append engine calls [.plan id o]
  have hagain : ((engine.after (calls ++ [.plan id o])).plan id o).1 = .ok plan := by
    rw [hbehind, plan_plan, h]
  rw [← hbehind]
  exact answers_resolve hb hagain c

theorem answers_resolve_later (hb : build parts = .ok engine) {calls later : List Call}
    {id : String} {o : Overrides} {plan : Plan}
    (h : ((engine.after calls).plan id o).1 = .ok plan)
    (hd : ToldApart engine (o :: overridesOf (calls ++ later))) (c : Container) :
    plan.Answers ((engine.after (calls ++ later)).resolve id c o).1 := by
  have hsubset : overridesOf (calls ++ later) ⊆ o :: overridesOf (calls ++ later) :=
    List.subset_cons_self o _
  have hfirst : overridesOf calls ⊆ o :: overridesOf (calls ++ later) := by
    intro other hother
    rw [overridesOf_append]
    exact List.mem_cons_of_mem o (List.mem_append_left _ hother)
  have hlater : ((engine.after (calls ++ later)).plan id o).1 = .ok plan := by
    rw [plan_after_eq_freshPlan hb hd hsubset id List.mem_cons_self,
      ← plan_after_eq_freshPlan hb hd hfirst id List.mem_cons_self, h]
  exact answers_resolve hb hlater c

/-- What records come to under a plan that an engine gave behind some calls. -/
structure AnswersUnder (engine : Engine) (calls : List Call) (id : String) (o : Overrides)
    (plan : Plan) : Prop where
  now : ∀ c, plan.Answers ((engine.after calls).resolve id c o).1
  /-- Behind the call that gave the plan. -/
  next : ∀ c, plan.Answers (((engine.after calls).plan id o).2.resolve id c o).1
  later : ∀ later, ToldApart engine (o :: overridesOf (calls ++ later)) →
    ∀ c, plan.Answers ((engine.after (calls ++ later)).resolve id c o).1

theorem answersUnder_of_plan (hb : build parts = .ok engine) {calls : List Call} {id : String}
    {o : Overrides} {plan : Plan} (h : ((engine.after calls).plan id o).1 = .ok plan) :
    engine.AnswersUnder calls id o plan :=
  ⟨answers_resolve hb h, answers_resolve_behind hb h,
    fun _ hd c => answers_resolve_later hb h hd c⟩

end Reshape.Engine

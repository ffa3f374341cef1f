import Reshape.Filter.Builtin
import Reshape.Proofs.Engine.Transparency
import Reshape.Proofs.Plan.Precedence
import Reshape.Proofs.Plan.Run

namespace Reshape.Engine

variable {parts : Parts} {engine : Engine}

theorem exists_build_of_plan (hb : build parts = .ok engine) {calls : List Call} {id : String}
    {o : Overrides} {plan : Plan} (h : ((engine.after calls).plan id o).1 = .ok plan) :
    ∃ d, engine.descriptor? id = some d ∧ ∃ o' ∈ o :: overridesOf calls,
      o'.fingerprint = o.fingerprint ∧ Plan.build engine.registry d o' = .ok plan := by
  have hkept : Kept (engine.after calls) (o :: overridesOf calls) :=
    kept_after (kept_of_entries_eq_nil (entries_of_build hb)) (List.subset_cons_self o _)
  obtain ⟨cache, -, ha⟩ := exists_cache_after engine calls
  rw [ha] at h hkept
  -- calls change nothing but the cache, so the type is the one that the engine was built with
  cases hid : Engine.descriptor? { engine with cache } id with
  | none =>
    rw [plan_eq_of_unknown hid] at h
    exact absurd h (by simp)
  | some d =>
    rw [plan_eq_of_descriptor? hid] at h
    have houtcome := Outcome.mapError_eq_ok.1 h
    rw [Plan.Cache.getOrBuild_fst] at houtcome
    -- what is found was built when it was first asked for, what is not is built now
    cases hf : cache.find? ⟨id, o.fingerprint⟩ with
    | none =>
      rw [hf] at houtcome
      exact ⟨d, hid, o, List.mem_cons_self, rfl, houtcome⟩
    | some outcome =>
      obtain ⟨d', hid', o', ho', hprint, hbuilt⟩ := hkept _ (Plan.Cache.mem_of_find? hf)
      obtain rfl : d = d' := Option.some.inj (hid.symm.trans hid')
      rw [hf] at houtcome
      exact ⟨d, hid, o', ho', hprint, hbuilt.symm.trans houtcome⟩

theorem nodup_names_of_plan (hb : build parts = .ok engine)
    (hd : ∀ d ∈ parts.types, d.KeysOnce) {calls : List Call} {id : String} {o : Overrides}
    (ho : ∀ o' ∈ o :: overridesOf calls, o'.KeysOnce) {plan : Plan}
    (h : ((engine.after calls).plan id o).1 = .ok plan) :
    (plan.fields.map Plan.Field.name).Nodup := by
  obtain ⟨d, hid, o', ho', -, hbuilt⟩ := exists_build_of_plan hb h
  obtain ⟨hmem, hvalid⟩ := sound_of_descriptor? hb hid
  exact (Plan.precedence_of_build hvalid (hd d hmem) (ho o' ho') hbuilt).distinct

/-- Every plan that an engine gives behind any calls is run field by field. -/
theorem run_fieldwise (hb : build parts = .ok engine) (hd : ∀ d ∈ parts.types, d.KeysOnce)
    {calls : List Call} {id : String} {o : Overrides}
    (ho : ∀ o' ∈ o :: overridesOf calls, o'.KeysOnce) {plan : Plan}
    (h : ((engine.after calls).plan id o).1 = .ok plan) (registry : Filter.Registry)
    (switches : Switches) (c : Container) : Plan.Fieldwise plan registry switches c :=
  Plan.fieldwise_of_nodup (nodup_names_of_plan hb hd ho h) registry switches c

/-- A type with a declared path, a field by convention, filters for one of them and a pipeline. -/
def ticketParts : Parts :=
  { types := [
      { id := "Ticket"
        fields := [{ name := "title", source := some "meta.title" }, { name := "votes" }]
        fieldFilters := [("votes", [⟨"int", []⟩])]
        pipeline := [⟨"trim", []⟩] }] }

def numbered : Overrides := { template := [("title", .string "#{{ id }}"), ("kind", .ofNat 1)] }

theorem run_fieldwise_ticket : ∃ engine plan, build ticketParts = .ok engine ∧
    (∀ d ∈ ticketParts.types, d.KeysOnce) ∧
    (∀ o' ∈ numbered :: overridesOf [.plan "Ticket" {}], o'.KeysOnce) ∧
    ((engine.after [.plan "Ticket" {}]).plan "Ticket" numbered).1 = .ok plan ∧
    Plan.Fieldwise plan engine.registry { absentFields := .omit } (.ofMembers []) := by
  obtain ⟨engine, hb⟩ : ∃ engine, build ticketParts = .ok engine := ⟨_, rfl⟩
  have hd : ∀ d ∈ ticketParts.types, d.KeysOnce := by
    intro d hmem
    obtain rfl := List.mem_singleton.1 hmem
    exact ⟨by decide, by decide⟩
  have ho : ∀ o' ∈ numbered :: overridesOf [.plan "Ticket" {}], o'.KeysOnce := by
    intro o' hmem
    have hcases : o' = numbered ∨ o' = {} := by
      simpa [overridesOf, Call.overrides] using hmem
    rcases hcases with rfl | rfl
    · exact ⟨by decide, by decide⟩
    · exact ⟨by decide, by decide⟩
  have hok : ((engine.after [.plan "Ticket" {}]).plan "Ticket" numbered).1.isOk = true := by
    obtain rfl := Except.ok.inj hb
    decide +kernel
  obtain ⟨plan, h⟩ := Outcome.exists_eq_ok_of_isOk hok
  exact ⟨engine, plan, hb, hd, ho, h, run_fieldwise hb hd ho h _ _ _⟩

end Reshape.Engine

import Reshape.Proofs.Engine.Answers
import Reshape.Proofs.Filter.Idempotent

namespace Reshape

namespace Plan

open Reshape.Filter (Bound Normalises Reference Registry)

/-- Pipelines that make the same of every value make the same records. -/
theorem runFields_eq_of_pipelines {pipeline other : List Bound}
    (h : ∀ field value, Pipeline.run field pipeline value = Pipeline.run field other value)
    (registry : Registry) (switches : Switches) (c : Container) (fields : List Field) :
    runFields pipeline registry switches c fields = runFields other registry switches c fields := by
  have hvalue : ∀ field : Field, field.value? pipeline registry switches c =
      field.value? other registry switches c := by
    intro field
    unfold Field.value?
    simp only [Pipeline.run_append, funext (h field.name)]
  induction fields with
  | nil => rfl
  | cons field fields ih => rw [runFields, runFields, hvalue, ih]

def leading (r : Reference) (o : Overrides) : Overrides := { o with pipeline := r :: o.pipeline }

theorem bindAll_cons {registry : Registry} {r : Reference} {b : Bound}
    (h : registry.bind r = .ok b) (back : List Reference) :
    registry.bindAll (r :: back) = (registry.bindAll back).map (b :: ·) := by
  unfold Registry.bindAll
  rw [Outcome.mapM_cons_eq, h]

/-- Where the type's pipeline ends with a filter that normalises, the call's need not start with
it: plans with and without it fail alike or make the same records. -/
theorem run_build_leading {registry : Registry} {d : Descriptor} {front : List Reference}
    {r : Reference} (hpipeline : d.pipeline = front ++ [r]) {filter : Filter}
    (hget : registry.get r.name = .ok filter) (hnormalises : Normalises filter) (o : Overrides)
    (switches : Switches) (c : Container) :
    (((build registry d (leading r o)).mapError .build).bind fun plan =>
        plan.run registry switches c) =
      ((build registry d o).mapError .build).bind fun plan => plan.run registry switches c := by
  have hbind : registry.bind r = .ok ⟨r, filter⟩ := by rw [Registry.bind, hget]; rfl
  have hfields : boundFields registry d (leading r o) = boundFields registry d o := rfl
  have honce : registry.bindAll (d.pipeline ++ o.pipeline) = (registry.bindAll front).bind
      fun bounds => ((registry.bindAll o.pipeline).map (⟨r, filter⟩ :: ·)).map (bounds ++ ·) := by
    rw [hpipeline, List.append_assoc, List.singleton_append, bindAll_append, bindAll_cons hbind]
  have htwice : registry.bindAll (d.pipeline ++ (leading r o).pipeline) =
      (registry.bindAll front).bind fun bounds =>
        (((registry.bindAll o.pipeline).map (⟨r, filter⟩ :: ·)).map (⟨r, filter⟩ :: ·)).map
          (bounds ++ ·) := by
    rw [hpipeline, List.append_assoc, List.singleton_append, bindAll_append, bindAll_cons hbind,
      leading, bindAll_cons hbind]
  rw [build_eq_boundFields, build_eq_boundFields, hfields, honce, htwice]
  cases boundFields registry d o with
  | error error => simp [Except.bind]
  | ok fields =>
    cases registry.bindAll front with
    | error error => simp [Except.bind, Except.map]
    | ok bounds =>
      cases registry.bindAll o.pipeline with
      | error error => simp [Except.bind, Except.map]
      | ok others =>
        exact runFields_eq_of_pipelines
          (fun field value => Pipeline.run_repeated hnormalises field bounds others value)
          registry switches c fields

end Plan

namespace Engine

open Reshape.Filter (Normalises Reference Registry normalising)
open Plan (leading)

variable {parts : Parts} {engine : Engine}

theorem resolve_leading (hb : build parts = .ok engine) {d : Descriptor} (hd : d ∈ parts.types)
    {front : List Reference} {r : Reference} (hpipeline : d.pipeline = front ++ [r])
    {filter : Filter} (hget : parts.registry.get r.name = .ok filter)
    (hnormalises : Normalises filter) (o : Overrides) (c : Container) :
    (engine.resolve d.id c (leading r o)).1 = (engine.resolve d.id c o).1 := by
  rw [fst_resolve_eq_fresh hb, fst_resolve_eq_fresh hb, freshPlan_of_mem hb hd,
    freshPlan_of_mem hb hd, ← registry_of_build hb]
  rw [← registry_of_build hb] at hget
  exact Plan.run_build_leading hpipeline hget hnormalises o engine.switches c

/-- What a filter that normalises gives, it keeps. So where the pipeline of a type ends with one, a
call whose pipeline starts with the same one gets what it gets without, whatever was asked of the
engine before, if digests tell its overrides apart. -/
theorem normalising_filters_idempotent :
    (∀ name ∈ normalising, ∃ filter, Registry.builtin.get name = .ok filter ∧
      ∀ arguments value result, filter value arguments = .ok result →
        filter result arguments = .ok result) ∧
    ∀ parts engine, build parts = .ok engine → ∀ d ∈ parts.types, ∀ front r,
      d.pipeline = front ++ [r] → r.name ∈ normalising →
      parts.registry.get r.name = Registry.builtin.get r.name → ∀ o c,
        (engine.resolve d.id c (leading r o)).1 = (engine.resolve d.id c o).1 ∧
        ∀ calls others : List Call,
          ToldApart engine (leading r o :: o :: overridesOf (calls ++ others)) →
          ((engine.after calls).resolve d.id c (leading r o)).1 =
            ((engine.after others).resolve d.id c o).1 := by
  refine ⟨fun name => Filter.normalises_of_normalising, ?_⟩
  intro parts engine hb d hd front r hpipeline hname hbuiltin o c
  obtain ⟨filter, hget, hnormalises⟩ := Filter.normalises_of_normalising hname
  have hnow := resolve_leading hb hd hpipeline (hbuiltin.trans hget) hnormalises o c
  refine ⟨hnow, fun calls others htold => ?_⟩
  obtain ⟨htwice, honce⟩ := fst_resolve_after_both hb htold d.id c
  rw [htwice, honce]
  exact hnow

def joined : Reference := ⟨"join", [.string "|"]⟩

def joinedParts : Parts :=
  { types := [{ id := "Note", fields := [{ name := "tags" }], pipeline := [joined] }] }

def taggedNote : Container := .ofMembers [("tags", .strings ["a", "b"])]

theorem normalising_filters_idempotent_note : ∃ engine, build joinedParts = .ok engine ∧
    ToldApart engine
      (leading joined {} :: {} :: overridesOf ([.resolve "Note" taggedNote {}] ++ [])) ∧
    (engine.resolve "Note" taggedNote {}).1 = .ok [("tags", .string "a|b")] ∧
    ((engine.after [.resolve "Note" taggedNote {}]).resolve "Note" taggedNote
      (leading joined {})).1 = .ok [("tags", .string "a|b")] ∧
    Filter.join (.strings ["a", "b"]) [.string "|"] = .ok (.string "a|b") ∧
    Filter.join (.string "a|b") [.string "|"] = .ok (.string "a|b") := by
  obtain ⟨engine, hb⟩ : ∃ engine, build joinedParts = .ok engine := ⟨_, rfl⟩
  have hprints : (leading joined {}).fingerprint ≠ Overrides.fingerprint {} := by decide +kernel
  have htold : ToldApart engine
      (leading joined {} :: {} :: overridesOf ([.resolve "Note" taggedNote {}] ++ [])) :=
    toldApart_pair hprints (by simp [overridesOf, Call.overrides])
  have hjoin : Filter.join (.strings ["a", "b"]) [.string "|"] = .ok (.string "a|b") := rfl
  have hplain : (engine.resolve "Note" taggedNote {}).1 = .ok [("tags", .string "a|b")] := by
    obtain rfl := Except.ok.inj hb
    rfl
  have hname : "join" ∈ normalising := by decide
  obtain ⟨hfilters, hengines⟩ := normalising_filters_idempotent
  obtain ⟨filter, hget, hkeeps⟩ := hfilters "join" hname
  obtain rfl : Filter.join = filter := Except.ok.inj hget
  refine ⟨engine, hb, htold, hplain, ?_, hjoin, hkeeps _ _ _ hjoin⟩
  have hnote := hengines joinedParts engine hb _ List.mem_cons_self [] _ rfl hname rfl {} taggedNote
  exact (hnote.2 [.resolve "Note" taggedNote {}] [] htold).trans hplain

end Engine

end Reshape

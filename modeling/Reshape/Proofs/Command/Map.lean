import Reshape.Command.Map
import Reshape.Proofs.Command.Inputs
import Reshape.Proofs.Engine.Batch

namespace Reshape.Command

open Arguments (MapArguments)

theorem noBuildError_deliver (file : Option String) (shape : Records.Shape) (value : Json)
    (s : Scene) : NoBuildError (deliver file shape value s).1 := by
  unfold deliver
  cases file with
  | some name =>
    simp only [Action.fst_bind, Action.fst_scene, Action.fst_save, Action.fst_tell,
      Outcome.ok_bind]
    split
    · exact .ok _
    · exact .error rfl
  | none =>
    simp only [Action.fst_bind, Action.fst_scene, Action.fst_ite, Action.fst_print,
      Action.fst_tellData, Outcome.ok_bind, ite_self]
    exact .ok _

theorem noBuildError_showStats (stats : Plan.Cache.Stats) (s : Scene) :
    NoBuildError (showStats stats s).1 := by
  unfold showStats
  simp [NoBuildError.ok]

theorem fst_mapRecords (engine : Engine) (id : String) (o : Overrides) (records : List Json)
    (s : Scene) :
    (mapRecords engine id o records s).1 =
      (engine.resolveFrom id o 0 records).mapError fun failure => .record failure.1 failure.2 := by
  unfold mapRecords
  simp only [Action.fst_bind, Action.fst_scene, Action.fst_logAll, Action.fst_ofExcept,
    Outcome.ok_bind]

theorem noBuildError_mapRecords {parts : Engine.Parts} {engine : Engine}
    (hb : Engine.build parts = .ok engine) {calls : List Engine.Call} {id : String}
    {o : Overrides} (hu : Engine.overridesOf calls ⊆ [o]) {plan : Plan}
    (hplan : engine.freshPlan id o = .ok plan) (records : List Json) (s : Scene) :
    NoBuildError (mapRecords (engine.after calls) id o records s).1 := by
  rw [fst_mapRecords]
  cases h : (engine.after calls).resolveFrom id o 0 records with
  | ok mapped => exact .ok _
  | error failure => exact .error (Engine.answers_resolveFrom hb hu hplan h).isBuildError

theorem fst_readOverrides_none (s : Scene) : (readOverrides ⟨none, [], []⟩ s).1 = .ok {} := rfl

theorem fst_planOf (engine : Engine) (id : String) (o : Overrides) (s : Scene) :
    (planOf engine id o s).1 =
      ((engine.plan id o).1.mapError .core).map fun plan => (plan, (engine.plan id o).2) := by
  unfold planOf
  simp only [Action.fst_bind, Action.fst_logAll, Outcome.ok_bind, Action.fst_ofCore]
  cases (engine.plan id o).1 <;> rfl

variable {types : List Descriptor} {d : Descriptor} {a : MapArguments} {s : Scene}

/-- The command up to its plan, which it builds before it reads any input. -/
theorem fst_map (hload : Loads a.catalog s types) (hd : d ∈ types) (htype : a.type = d.id)
    (ho : a.overrides = ⟨none, [], []⟩) : ∃ engine,
      Engine.build { types, switches := mapSwitches a s.settings.engine } = .ok engine ∧
      engine.freshPlan d.id {} = (Plan.build .builtin d {}).mapError .build ∧
      (map a s).1 = (do
        let _ ← (engine.freshPlan d.id {}).mapError .core
        let text ← (readInput a.input s).1
        let records ← (readRecords (.detect a.input a.ndjson) text s).1
        let (mapped, engine) ←
          (mapRecords (engine.after [.plan d.id {}]) d.id {} records.items s).1
        (deliver a.saveTo records.shape (Records.arrange records.shape mapped) s).1
        if a.stats then (showStats engine.stats s).1 else .ok ()) := by
  obtain ⟨file, hfile, hcatalog⟩ := hload
  obtain ⟨engine, hb⟩ :=
    Catalog.exists_build_of_load hcatalog (mapSwitches a s.settings.engine)
  have hplan : (engine.plan d.id {}).1 = engine.freshPlan d.id {} :=
    Engine.plan_eq_freshPlan_of_build hb d.id {}
  refine ⟨engine, hb, Engine.freshPlan_of_mem hb hd {}, ?_⟩
  unfold map
  simp only [Action.fst_timed, Action.fst_bind, Action.fst_scene, Action.fst_ofExcept,
    Action.fst_log, Action.fst_ite, Action.fst_pure, Outcome.ok_bind, hfile,
    fst_loadEngine_of_load hcatalog hb, ho, htype, fst_readOverrides_none, fst_planOf, hplan]
  cases engine.freshPlan d.id {} with
  | error error => rfl
  | ok plan => rfl

theorem noBuildError_map (hload : Loads a.catalog s types) (hd : d ∈ types)
    (htype : a.type = d.id) (ho : a.overrides = ⟨none, [], []⟩) {plan : Plan}
    (hplan : Plan.build .builtin d {} = .ok plan) : NoBuildError (map a s).1 := by
  obtain ⟨engine, hb, hbuild, hmap⟩ := fst_map hload hd htype ho
  have hfresh : engine.freshPlan d.id {} = .ok plan := by
    rw [hbuild, hplan, Outcome.mapError_ok]
  have hused : Engine.overridesOf [.plan d.id {}] ⊆ [{}] := List.Subset.refl _
  rw [hmap, hfresh, Outcome.mapError_ok, Outcome.ok_bind]
  refine .bind (noBuildError_readInput a.input s) fun text _ => ?_
  refine .bind (noBuildError_readRecords _ text s) fun records _ => ?_
  refine .bind (noBuildError_mapRecords hb hused hfresh records.items s) fun mapped _ => ?_
  refine .bind (noBuildError_deliver a.saveTo records.shape _ s) fun _ _ => ?_
  split
  · exact noBuildError_showStats _ s
  · exact .ok ()

theorem map_eq_error_of_build (hload : Loads a.catalog s types) (hd : d ∈ types)
    (htype : a.type = d.id) (ho : a.overrides = ⟨none, [], []⟩) {fault : BuildError}
    (hfault : Plan.build .builtin d {} = .error fault) :
    (map a s).1 = .error (.core (.build fault)) := by
  obtain ⟨engine, -, hfresh, hmap⟩ := fst_map hload hd htype ho
  rw [hmap, hfresh, hfault]
  rfl

end Reshape.Command

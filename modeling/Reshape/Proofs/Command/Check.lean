import Reshape.Command.Check
import Reshape.Proofs.Command.Map

namespace Reshape.Command

open Arguments (MapArguments)

/-- Mapping records to a type with no flags of overrides ends in no build error, whatever the
records, the settings and the other flags are. -/
def MapsWithoutBuildError (types : List Descriptor) (d : Descriptor) : Prop :=
  ∀ (a : MapArguments) (s : Scene), a.type = d.id → a.overrides = ⟨none, [], []⟩ →
    Loads a.catalog s types → NoBuildError (map a s).1

/-- The same of engines with these types, behind any calls without overrides. -/
def ResolvesWithoutBuildError (types : List Descriptor) (d : Descriptor) : Prop :=
  ∀ switches engine, Engine.build { types, switches } = .ok engine →
    ∀ calls, Engine.overridesOf calls ⊆ [{}] → ∀ c fault,
      ((engine.after calls).resolve d.id c {}).1 ≠ .error (.build fault)

variable {types : List Descriptor} {d : Descriptor} {s : Scene}

/-- The types that fail are those whose plans cannot be built: all look-ups are without overrides,
and so was all that the cache keeps. -/
theorem failures_checkTypes {engine : Engine} (hk : Engine.Kept engine [{}]) (ids : List String) :
    failures (checkTypes engine ids).1 =
      ids.countP fun id => (Outcome.fault? (engine.freshPlan id {})).isSome := by
  induction ids generalizing engine with
  | nil => rfl
  | cons id ids ih =>
    have hplan : (engine.plan id {}).1 = engine.freshPlan id {} :=
      Engine.plan_eq_freshPlan hk (Engine.toldApart_singleton engine {}) id
        (List.mem_singleton_self _)
    have hrest := ih (Engine.kept_plan hk id (List.mem_singleton_self _))
    obtain ⟨cache, -, hc⟩ := Engine.exists_cache_plan engine id {}
    have hfresh : (engine.plan id {}).2.freshPlan = engine.freshPlan := by
      rw [hc]
      rfl
    rw [hfresh] at hrest
    unfold failures at hrest ⊢
    unfold checkTypes
    rw [List.countP_cons, ← hrest, ← hplan]
    cases h : (engine.plan id {}).1 with
    | error error => simp [h, Outcome.fault?, Listing.Check.ok]
    | ok plan => simp [h, Outcome.fault?, Listing.Check.ok]

/-- Checking a catalog succeeds exactly when the plan of each of its types can be built. -/
theorem check_eq_ok_iff {catalog : Option String} (h : Loads catalog s types) :
    (check catalog none s).1 = .ok () ↔
      ∀ d ∈ types, ∃ plan, Plan.build .builtin d {} = .ok plan := by
  obtain ⟨file, hfile, hload⟩ := h
  obtain ⟨engine, hb⟩ := Catalog.exists_build_of_load hload s.settings.engine
  have hkept : Engine.Kept engine [{}] :=
    Engine.kept_of_entries_eq_nil (Engine.entries_of_build hb)
  have hcheck : (check catalog none s).1 = .ok () ↔
      failures (checkTypes engine engine.typeIds).1 = 0 := by
    unfold check
    simp [hfile, fst_loadEngine_of_load hload hb, checkedTypes]
  have hfresh : ∀ d ∈ types, Outcome.fault? (engine.freshPlan d.id {}) = none ↔
      ∃ plan, Plan.build .builtin d {} = .ok plan := by
    intro d hd
    rw [Engine.freshPlan_of_mem hb hd, Outcome.fault?_mapError, Option.map_eq_none_iff,
      Outcome.fault?_eq_none]
  rw [hcheck, failures_checkTypes hkept, List.countP_eq_zero]
  constructor
  · intro hall d hd
    have hid := hall d.id ((Engine.mem_typeIds hb).2 ⟨d, hd, rfl⟩)
    exact (hfresh d hd).1 (by simpa using hid)
  · intro hall id hid
    obtain ⟨d, hd, rfl⟩ := (Engine.mem_typeIds hb).1 hid
    simpa using (hfresh d hd).2 (hall d hd)

theorem build_eq_ok_iff_maps {catalog : Option String} (h : Loads catalog s types)
    (hd : d ∈ types) :
    (∃ plan, Plan.build .builtin d {} = .ok plan) ↔ MapsWithoutBuildError types d := by
  constructor
  · rintro ⟨plan, hplan⟩ a s' htype ho hload
    exact noBuildError_map hload hd htype ho hplan
  · intro hmaps
    cases hbuild : Plan.build .builtin d {} with
    | ok plan => exact ⟨plan, rfl⟩
    | error fault =>
      -- the check's own scene is one in which mapping ends in the fault
      let a : MapArguments := {
        catalog, type := d.id, input := none, overrides := ⟨none, [], []⟩, ndjson := false
        omitAbsent := false, nullDefault := false, stats := false, saveTo := none }
      have hmap : (map a s).1 = .error (.core (.build fault)) :=
        map_eq_error_of_build h hd rfl rfl hbuild
      have hspared := hmaps a s rfl rfl h _ hmap
      exact absurd hspared (by simp [Problem.isBuildError, Problem.error?, Error.isBuildError])

theorem build_eq_ok_iff_resolves {catalog : Option String} (h : Loads catalog s types)
    (hd : d ∈ types) :
    (∃ plan, Plan.build .builtin d {} = .ok plan) ↔ ResolvesWithoutBuildError types d := by
  constructor
  · rintro ⟨plan, hplan⟩ switches engine hb calls hu c fault
    have hfresh : engine.freshPlan d.id {} = .ok plan := by
      rw [Engine.freshPlan_of_mem hb hd, hplan, Outcome.mapError_ok]
    have hgiven : ((engine.after calls).plan d.id {}).1 = .ok plan := by
      rw [Engine.plan_after_eq_freshPlan_alone hb hu, hfresh]
    exact (Engine.answers_resolve hb hgiven c).ne_build fault
  · intro hresolves
    cases hbuild : Plan.build .builtin d {} with
    | ok plan => exact ⟨plan, rfl⟩
    | error fault =>
      -- a record without members shows the error, before any call was made
      obtain ⟨file, -, hload⟩ := h
      obtain ⟨engine, hb⟩ := Catalog.exists_build_of_load hload {}
      have hplan : (engine.plan d.id {}).1 = .error (.build fault) := by
        rw [Engine.plan_eq_freshPlan_of_build hb, Engine.freshPlan_of_mem hb hd, hbuild,
          Outcome.mapError_error]
      have hresolve : (engine.resolve d.id (.ofMembers []) {}).1 = .error (.build fault) := by
        rw [Engine.resolve_eq, hplan]
        rfl
      have hnone : Engine.overridesOf [] ⊆ [{}] := List.nil_subset _
      exact absurd hresolve (hresolves {} engine hb [] hnone (.ofMembers []) fault)

/-- Build errors show when plans are built. No record meets one under a plan that an engine gave. A
catalog passes its check exactly when the plans of all its types can be built, and so exactly when
no record meets one under any of its types, be it mapped by the command or by an engine. -/
theorem build_errors_show_early :
    (∀ parts engine, Engine.build parts = .ok engine → ∀ calls id o plan,
      ((engine.after calls).plan id o).1 = .ok plan → engine.AnswersUnder calls id o plan) ∧
    ∀ catalog s types, Loads catalog s types →
      ((check catalog none s).1 = .ok () ↔
        ∀ d ∈ types, ∃ plan, Plan.build .builtin d {} = .ok plan) ∧
      ((check catalog none s).1 = .ok () ↔ ∀ d ∈ types, MapsWithoutBuildError types d) ∧
      ((check catalog none s).1 = .ok () ↔ ∀ d ∈ types, ResolvesWithoutBuildError types d) := by
  constructor
  · intro parts engine hb calls id o plan h
    exact Engine.answersUnder_of_plan hb h
  · intro catalog s types h
    have hcheck := check_eq_ok_iff h
    refine ⟨hcheck, ?_, ?_⟩
    · rw [hcheck]
      exact forall₂_congr fun d hd => build_eq_ok_iff_maps h hd
    · rw [hcheck]
      exact forall₂_congr fun d hd => build_eq_ok_iff_resolves h hd

def bookCatalog : String :=
  "[\x7b\"id\":\"Book\",\"fields\":[\x7b\"name\":\"title\"\x7d],\"pipeline\":[\"trim\"]\x7d]"

def bookScene : Scene :=
  { files := .ofTexts "/work" [("types.json", bookCatalog)], output := { format := .json } }

def bookArguments : MapArguments := {
  catalog := some "types.json", type := "Book", input := none, overrides := ⟨none, [], []⟩
  ndjson := false, omitAbsent := true, nullDefault := false, stats := false, saveTo := none }

def bookParts : Engine.Parts :=
  { types := [
      { id := "Book"
        fields := [{ name := "title" }]
        template := [("title", .string "{{ t | trim }}")] }] }

theorem build_errors_show_early_book :
    (∃ engine plan, Engine.build bookParts = .ok engine ∧
      (engine.plan "Book" {}).1 = .ok plan ∧ ∀ c,
        plan.Answers (engine.resolve "Book" c {}).1 ∧
        plan.Answers ((engine.after [.resolve "Book" c {}]).resolve "Book" c {}).1) ∧
    ∃ types, Loads (some "types.json") bookScene types ∧
      types.map Descriptor.id = ["Book"] ∧
      (check (some "types.json") none bookScene).1 = .ok () ∧
      NoBuildError (map bookArguments bookScene).1 := by
  constructor
  · obtain ⟨engine, hb⟩ : ∃ engine, Engine.build bookParts = .ok engine := ⟨_, rfl⟩
    have hok : (engine.plan "Book" {}).1.isOk = true := by
      obtain rfl := Except.ok.inj hb
      decide +kernel
    obtain ⟨plan, h⟩ := Outcome.exists_eq_ok_of_isOk hok
    have hanswers := build_errors_show_early.1 bookParts engine hb [] "Book" {} plan h
    refine ⟨engine, plan, hb, h, fun c => ⟨hanswers.now c, ?_⟩⟩
    have hused : Engine.ToldApart engine [{}, {}] := by
      intro _ o ho o' ho' _
      simp only [List.mem_cons, List.not_mem_nil, or_false, or_self] at ho ho'
      rw [ho, ho']
    exact hanswers.later [.resolve "Book" c {}] hused c
  · have hids : (Catalog.load bookScene.files "types.json").toOption.map
        (·.map Descriptor.id) = some ["Book"] := by decide +kernel
    obtain ⟨types, htypes, hid⟩ := Option.map_eq_some_iff.1 hids
    have hload : Loads (some "types.json") bookScene types := by
      refine ⟨"types.json", rfl, ?_⟩
      cases h : Catalog.load bookScene.files "types.json" with
      | error error => rw [h] at htypes; exact absurd htypes (by simp [Except.toOption])
      | ok found => rw [h] at htypes; exact congrArg Except.ok (Option.some.inj htypes)
    have hcheck : (check (some "types.json") none bookScene).1 = .ok () := by
      have hok : (check (some "types.json") none bookScene).1.isOk = true := by decide +kernel
      obtain ⟨⟨⟩, h⟩ := Outcome.exists_eq_ok_of_isOk hok
      exact h
    obtain ⟨d, hd, hbook⟩ : ∃ d ∈ types, d.id = "Book" :=
      List.mem_map.1 (hid ▸ List.mem_singleton_self "Book")
    have hmaps := ((build_errors_show_early.2 _ _ _ hload).2.1.1 hcheck) d hd
    exact ⟨types, hload, hid, hcheck, hmaps bookArguments bookScene hbook.symm rfl hload⟩

end Reshape.Command

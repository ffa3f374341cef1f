import Mathlib.Data.List.Perm.Basic
import Reshape.Proofs.Engine.Calls

namespace Reshape

namespace Container

/-- The paths lead to the same values in both containers. -/
def AgreeOn (paths : List Path) (c c' : Container) : Prop := ∀ p ∈ paths, p.resolve c = p.resolve c'

variable {paths : List Path} {c c' : Container}

theorem agreeOn_append {others : List Path} :
    AgreeOn (paths ++ others) c c' ↔ AgreeOn paths c c' ∧ AgreeOn others c c' :=
  List.forall_mem_append

theorem AgreeOn.subset {others : List Path} (h : AgreeOn paths c c') (hs : others ⊆ paths) :
    AgreeOn others c c' :=
  fun p hp => h p (hs hp)

/-- A map that keeps its members by their hashes. -/
def ofHashMap (map : Std.HashMap String Json) : Container := ⟨(map[·]?), fun _ => none⟩

/-- A map that keeps its members in the order of their keys. -/
def ofTreeMap (map : Std.TreeMap String Json) : Container := ⟨(map[·]?), fun _ => none⟩

/-- Items that stand side by side in memory. -/
def ofArray (items : Array Json) : Container := ⟨fun _ => none, (items[·]?)⟩

/-- The roots that show a value: the value itself, the members of an object in a map of any kind,
and the items of an array in a list of any kind. -/
inductive Shows : Json → Container → Prop where
  | value (v : Json) : Shows v (ofJson v)
  | members (members : Json.Members) : Shows (.object members) (ofMembers members)
  | hashMap {members : Json.Members} {map : Std.HashMap String Json}
      (h : map.toList.Perm members) : Shows (.object members) (ofHashMap map)
  | treeMap {members : Json.Members} {map : Std.TreeMap String Json}
      (h : map.toList.Perm members) : Shows (.object members) (ofTreeMap map)
  | items (items : List Json) : Shows (.array items) (ofItems items)
  | array {items : List Json} {stored : Array Json} (h : stored.toList = items) :
      Shows (.array items) (ofArray stored)

theorem get?_of_perm {members : Json.Members} {stored : List (String × Json)}
    {look : String → Option Json} (hperm : stored.Perm members)
    (hd : (stored.map Prod.fst).Nodup)
    (hlook : ∀ key value, (key, value) ∈ stored ↔ look key = some value) :
    look = members.get? := by
  have hnodup : members.keys.Nodup := (hperm.map Prod.fst).nodup_iff.1 hd
  funext key
  apply Option.ext
  intro value
  rw [← hlook, hperm.mem_iff]
  exact ⟨Sorted.get?_of_mem hnodup, Sorted.mem_of_get?⟩

/-- Every root that shows a value is looked into like the value. -/
theorem Shows.eq_ofJson {v : Json} (h : Shows v c) : c = ofJson v := by
  cases h with
  | value => rfl
  | members => rfl
  | @hashMap members map hperm =>
    have hd : (map.toList.map Prod.fst).Nodup := by
      rw [Std.HashMap.map_fst_toList_eq_keys]
      exact Std.HashMap.nodup_keys
    have hlook := get?_of_perm hperm hd fun _ _ => Std.HashMap.mem_toList_iff_getElem?_eq_some
    exact congrArg (Container.mk · _) hlook
  | @treeMap members map hperm =>
    have hd : (map.toList.map Prod.fst).Nodup := by
      rw [Std.TreeMap.map_fst_toList_eq_keys]
      exact Std.TreeMap.nodup_keys
    have hlook := get?_of_perm hperm hd fun _ _ => Std.TreeMap.mem_toList_iff_getElem?_eq_some
    exact congrArg (Container.mk · _) hlook
  | items => rfl
  | @array items stored hstored =>
    subst hstored
    have hlook : (fun n : ℕ => stored[n]?) = fun n => stored.toList[n]? := by
      funext n
      rw [Array.getElem?_toList]
    exact congrArg (Container.mk _) hlook

end Container

namespace Template.Expr

mutual

def paths : Expr → List Path
  | .literal _ => []
  | .path p => [p]
  | .concat parts => partPaths parts
  | .filter inner _ _ => paths inner
  | .fallback inner other => paths inner ++ paths other

def partPaths : List Expr → List Path
  | [] => []
  | part :: parts => paths part ++ partPaths parts

end

variable {ctx : Context} {c c' : Container}

mutual

theorem evaluate_congr (e : Expr) (h : Container.AgreeOn e.paths c c') :
    e.evaluate ctx c = e.evaluate ctx c' := by
  match e with
  | .literal value => rfl
  | .path p =>
    have hp : p.resolve c = p.resolve c' := h p (by simp [paths])
    unfold evaluate
    rw [hp]
  | .concat parts =>
    unfold evaluate
    rw [renderParts_congr parts h]
  | .filter inner name arguments =>
    unfold evaluate
    rw [evaluate_congr inner h]
  | .fallback inner other =>
    -- both are compared, since either may be the one that is taken
    obtain ⟨hinner, hother⟩ := Container.agreeOn_append.1 h
    unfold evaluate
    rw [evaluate_congr inner hinner, evaluate_congr other hother]

theorem renderParts_congr (parts : List Expr) (h : Container.AgreeOn (partPaths parts) c c') :
    renderParts ctx c parts = renderParts ctx c' parts := by
  match parts with
  | [] => rfl
  | part :: parts =>
    obtain ⟨hpart, hparts⟩ := Container.agreeOn_append.1 h
    unfold renderParts
    rw [evaluate_congr part hpart, renderParts_congr parts hparts]

end

end Template.Expr

namespace Plan

variable {c c' : Container}

def Source.paths : Source → List Path
  | .template e => e.paths
  | .declared path => [path]
  | .convention path => [path]

def paths (plan : Plan) : List Path := plan.fields.flatMap fun field => field.source.paths

theorem Source.evaluate_congr {source : Source} (h : Container.AgreeOn source.paths c c')
    (ctx : Template.Context) : source.evaluate ctx c = source.evaluate ctx c' := by
  cases source with
  | template e => exact e.evaluate_congr h
  | declared path => exact congrArg Except.ok (h path (List.mem_singleton_self path))
  | convention path => exact congrArg Except.ok (h path (List.mem_singleton_self path))

theorem Field.value?_congr {field : Field} (h : Container.AgreeOn field.source.paths c c')
    (pipeline : List Filter.Bound) (registry : Filter.Registry) (switches : Switches) :
    field.value? pipeline registry switches c = field.value? pipeline registry switches c' := by
  unfold Field.value? Field.raw?
  rw [Source.evaluate_congr h]

theorem runFields_congr {fields : List Field}
    (h : ∀ field ∈ fields, Container.AgreeOn field.source.paths c c')
    (pipeline : List Filter.Bound) (registry : Filter.Registry) (switches : Switches) :
    runFields pipeline registry switches c fields =
      runFields pipeline registry switches c' fields := by
  induction fields with
  | nil => rfl
  | cons field fields ih =>
    have hrest := ih fun other ho => h other (List.mem_cons_of_mem _ ho)
    rw [runFields, runFields, Field.value?_congr (h field List.mem_cons_self), hrest]

theorem run_congr {plan : Plan} (h : Container.AgreeOn plan.paths c c')
    (registry : Filter.Registry) (switches : Switches) :
    plan.run registry switches c = plan.run registry switches c' := by
  refine runFields_congr (fun field hfield => h.subset ?_) _ _ _
  exact fun p hp => List.mem_flatMap.2 ⟨field, hfield, hp⟩

end Plan

namespace Engine

/-- A mapping reads the paths of its plan and nothing else of the root: it cannot tell two roots
apart that agree on these, nor in which kind of container a value is handed to it. -/
theorem resolve_reads_plan_paths {engine : Engine} {id : String} {o : Overrides} {plan : Plan}
    (h : (engine.plan id o).1 = .ok plan) :
    (∀ c c' : Container, Container.AgreeOn plan.paths c c' →
      engine.resolve id c o = engine.resolve id c' o) ∧
    ∀ (v : Json) (c c' : Container), Container.Shows v c → Container.Shows v c' →
      engine.resolve id c o = engine.resolve id c' o := by
  constructor
  · intro c c' hagree
    have hrun : (engine.plan id o).2.run plan c = (engine.plan id o).2.run plan c' :=
      Plan.run_congr hagree _ _
    rw [resolve_eq, resolve_eq, h]
    exact congrArg (·, _) hrun
  · intro v c c' hc hc'
    rw [hc.eq_ofJson, hc'.eq_ofJson]

/-- A type that is read from two paths of a template and from a key made of a name. -/
def badgeParts : Parts :=
  { types := [
      { id := "Badge"
        fields := [{ name := "label" }, { name := "floor" }]
        template := [("label", .string "{{ user.name ?? code | upper }}")] }] }

def badgeMembers : Json.Members := [("code", .string "b7"), ("pin", .string "1234")]

def badgeMap : Std.HashMap String Json := (∅ : Std.HashMap String Json).insert "code" (.string "b7")

theorem resolve_reads_plan_paths_badge : ∃ engine, Engine.build badgeParts = .ok engine ∧
    (engine.plan "Badge" {}).1.isOk = true ∧
    engine.resolve "Badge" (.ofMembers badgeMembers) {} =
      engine.resolve "Badge" (.ofHashMap badgeMap) {} ∧
    engine.resolve "Badge" (.ofJson (.object [("code", .string "b7")])) {} =
      engine.resolve "Badge" (.ofHashMap badgeMap) {} := by
  obtain ⟨engine, hb⟩ : ∃ engine, Engine.build badgeParts = .ok engine := ⟨_, rfl⟩
  have hpaths : (engine.plan "Badge" {}).1.toOption.map Plan.paths =
      some [⟨[.key "user", .key "name"]⟩, ⟨[.key "code"]⟩, ⟨[.key "floor"]⟩] := by
    obtain rfl := Except.ok.inj hb
    decide +kernel
  cases hplan : (engine.plan "Badge" {}).1 with
  | error error =>
    rw [hplan] at hpaths
    exact absurd hpaths (by simp [Except.toOption])
  | ok plan =>
    rw [hplan] at hpaths
    have hread := resolve_reads_plan_paths hplan
    have hok : (engine.plan "Badge" {}).1.isOk = true := by rw [hplan]; rfl
    refine ⟨engine, hb, hok, hread.1 _ _ ?_, hread.2 _ _ _ (.value _) (.hashMap ?_)⟩
    · intro p hp
      rw [Option.some.inj hpaths] at hp
      simp only [List.mem_cons, List.not_mem_nil, or_false] at hp
      rcases hp with rfl | rfl | rfl <;>
        simp [Path.resolve, Path.Segment.lookup, Container.ofMembers, Container.ofHashMap,
          badgeMembers, badgeMap, Json.Members.get?, List.lookup_cons]
    · have hinsert := @Std.HashMap.toList_insert_perm _ _ _ _ (∅ : Std.HashMap String Json) _ _
        "code" (.string "b7")
      simpa [badgeMap] using hinsert

end Engine

end Reshape

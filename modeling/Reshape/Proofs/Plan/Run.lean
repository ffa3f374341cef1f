import Reshape.Plan
import Reshape.Proofs.Outcome
import Reshape.Proofs.Sorted

namespace Reshape.Plan

open Outcome (fault?)

variable {plan : Plan} {registry : Filter.Registry} {switches : Switches} {c : Container}

def only (plan : Plan) (field : Field) : Plan := { plan with fields := [field] }

/-- Whether the source of a field has a value, which may be null. -/
def Field.isPresent (field : Field) (registry : Filter.Registry) (switches : Switches)
    (c : Container) : Bool :=
  match field.source.evaluate ⟨field.name, registry, switches.nullFallsBack⟩ c with
  | .ok (some _) => true
  | _ => false

def isPresent (plan : Plan) (registry : Filter.Registry) (switches : Switches) (c : Container)
    (name : String) : Bool :=
  (plan.field? name).any fun field => field.isPresent registry switches c

theorem run_only (plan : Plan) (field : Field) (registry : Filter.Registry)
    (switches : Switches) (c : Container) :
    (plan.only field).run registry switches c =
      (field.value? plan.pipeline registry switches c).map fun value =>
        (value.map fun v => (field.name, v)).toList := by
  unfold run only
  simp only [runFields]
  cases field.value? plan.pipeline registry switches c with
  | error error => rfl
  | ok value => simp [Except.map]

theorem value?_eq (field : Field) (pipeline : List Filter.Bound) (registry : Filter.Registry)
    (switches : Switches) (c : Container) :
    field.value? pipeline registry switches c =
      match field.source.evaluate ⟨field.name, registry, switches.nullFallsBack⟩ c with
      | .error error => .error error
      | .ok (some raw) =>
        (Pipeline.run field.name (field.filters ++ pipeline) raw).map some
      | .ok none => match switches.absentFields with
        | .null => (Pipeline.run field.name (field.filters ++ pipeline) .null).map some
        | .omit => .ok none := by
  unfold Field.value? Field.raw?
  cases field.source.evaluate ⟨field.name, registry, switches.nullFallsBack⟩ c with
  | error error => rfl
  | ok found =>
    cases found with
    | some raw => rfl
    | none => cases switches.absentFields <;> rfl

theorem keys_of_map_some {field : Field} {x : Except Error Json} {value : Option Json}
    (h : x.map some = .ok value) :
    Json.Members.keys (value.map fun v => (field.name, v)).toList = [field.name] := by
  obtain ⟨v, -, rfl⟩ := Outcome.map_eq_ok.1 h
  rfl

/-- Under null every field has a value before its filters run. -/
theorem keys_run_only_null (h : switches.absentFields = .null) {field : Field}
    {alone : Json.Members} (ha : (plan.only field).run registry switches c = .ok alone) :
    alone.keys = [field.name] := by
  rw [run_only] at ha
  obtain ⟨value, hv, rfl⟩ := Outcome.map_eq_ok.1 ha
  rw [value?_eq, h] at hv
  split at hv
  · exact absurd hv (by simp)
  · exact keys_of_map_some hv
  · exact keys_of_map_some hv

theorem keys_run_only_omit (h : switches.absentFields = .omit) {field : Field}
    {alone : Json.Members} (ha : (plan.only field).run registry switches c = .ok alone) :
    alone.keys = if field.isPresent registry switches c then [field.name] else [] := by
  rw [run_only] at ha
  obtain ⟨value, hv, rfl⟩ := Outcome.map_eq_ok.1 ha
  rw [value?_eq, h] at hv
  unfold Field.isPresent
  split at hv
  · exact absurd hv (by simp)
  · next hs =>
    rw [hs]
    exact keys_of_map_some hv
  · next hs =>
    obtain rfl : none = value := Except.ok.inj hv
    rw [hs]
    rfl

/-- A field that is null for want of a value is left out instead, and any other stays as it is. -/
theorem run_only_omit {field : Field} {alone : Json.Members}
    (ha : (plan.only field).run registry { switches with absentFields := .null } c = .ok alone) :
    (plan.only field).run registry { switches with absentFields := .omit } c =
      .ok (if field.isPresent registry switches c then alone else []) := by
  rw [run_only, value?_eq] at ha ⊢
  unfold Field.isPresent
  cases hs : field.source.evaluate ⟨field.name, registry, switches.nullFallsBack⟩ c with
  | error error =>
    simp only [hs] at ha
    exact absurd ha (by simp [Except.map])
  | ok found =>
    cases found with
    | none => rfl
    | some raw =>
      simp only [hs] at ha
      simpa using ha

theorem run_eq_flatten (plan : Plan) (registry : Filter.Registry) (switches : Switches)
    (c : Container) :
    plan.run registry switches c =
      (plan.fields.mapM fun field => (plan.only field).run registry switches c).map
        List.flatten := by
  simp only [run_only]
  unfold run
  induction plan.fields with
  | nil => rfl
  | cons field fields ih =>
    rw [Outcome.mapM_cons_eq, runFields, ih]
    cases field.value? plan.pipeline registry switches c with
    | error error => rfl
    | ok value =>
      generalize fields.mapM (fun field => (field.value? plan.pipeline registry switches c).map
        fun value => (value.map fun v => (field.name, v)).toList) = rest
      cases rest <;> rfl

theorem run_eq_ok {out : Json.Members} :
    plan.run registry switches c = .ok out ↔ ∃ outs,
      List.Forall₂ (fun field alone => (plan.only field).run registry switches c = .ok alone)
        plan.fields outs ∧ outs.flatten = out := by
  rw [run_eq_flatten, Outcome.map_eq_ok]
  simp only [Outcome.mapM_eq_ok]

theorem exists_run_eq_ok_iff : (∃ out, plan.run registry switches c = .ok out) ↔
    ∀ field ∈ plan.fields, ∃ alone, (plan.only field).run registry switches c = .ok alone := by
  rw [← Outcome.exists_mapM_eq_ok, run_eq_flatten]
  simp only [Outcome.map_eq_ok]
  exact ⟨fun ⟨_, outs, hall, _⟩ => ⟨outs, hall⟩, fun ⟨outs, hall⟩ => ⟨_, outs, hall, rfl⟩⟩

theorem run_eq_error_iff {error : Error} : plan.run registry switches c = .error error ↔
    ∃ before field behind, plan.fields = before ++ field :: behind ∧
      (∀ earlier ∈ before, ∃ alone,
        (plan.only earlier).run registry switches c = .ok alone) ∧
      (plan.only field).run registry switches c = .error error := by
  rw [run_eq_flatten, Outcome.map_eq_error, Outcome.mapM_eq_error]

/-- The fields of a list, each with what it comes to alone. -/
abbrev RunAlone (plan : Plan) (registry : Filter.Registry) (switches : Switches) (c : Container) :
    List Field → List Json.Members → Prop :=
  List.Forall₂ fun field alone => (plan.only field).run registry switches c = .ok alone

theorem keys_append (a b : Json.Members) : (a ++ b).keys = a.keys ++ b.keys := List.map_append

theorem mem_keys_run_only {field : Field} {alone : Json.Members}
    (ha : (plan.only field).run registry switches c = .ok alone) {name : String}
    (h : name ∈ alone.keys) : name = field.name := by
  rw [run_only] at ha
  obtain ⟨value, -, rfl⟩ := Outcome.map_eq_ok.1 ha
  cases value with
  | none => exact absurd h (by simp [Json.Members.keys])
  | some v => simpa [Json.Members.keys] using h

theorem mem_keys_flatten {fields : List Field} {outs : List Json.Members}
    (hall : RunAlone plan registry switches c fields outs) {name : String}
    (h : name ∈ Json.Members.keys outs.flatten) : name ∈ fields.map Field.name := by
  induction hall with
  | nil => exact absurd h (by simp [Json.Members.keys])
  | @cons field alone fields outs ha _ ih =>
    rw [List.flatten_cons, keys_append] at h
    rcases List.mem_append.1 h with h | h
    · exact mem_keys_run_only ha h ▸ List.mem_cons_self
    · exact List.mem_cons_of_mem _ (ih h)

theorem keys_flatten_null (h : switches.absentFields = .null) {fields : List Field}
    {outs : List Json.Members} (hall : RunAlone plan registry switches c fields outs) :
    Json.Members.keys outs.flatten = fields.map Field.name := by
  induction hall with
  | nil => rfl
  | cons ha _ ih => rw [List.flatten_cons, keys_append, ih, keys_run_only_null h ha]; rfl

theorem keys_flatten_omit (h : switches.absentFields = .omit) {fields : List Field}
    {outs : List Json.Members} (hall : RunAlone plan registry switches c fields outs) :
    Json.Members.keys outs.flatten =
      (fields.filter (·.isPresent registry switches c)).map Field.name := by
  induction hall with
  | nil => rfl
  | @cons field alone fields outs ha _ ih =>
    rw [List.flatten_cons, keys_append, ih, keys_run_only_omit h ha, List.filter_cons]
    cases field.isPresent registry switches c <;> rfl

/-- Names that differ keep the fields of a run apart. -/
theorem get?_flatten {fields : List Field} {outs : List Json.Members}
    (hall : RunAlone plan registry switches c fields outs)
    (hd : (fields.map Field.name).Nodup) {field : Field} (h : field ∈ fields) :
    ∃ alone, (plan.only field).run registry switches c = .ok alone ∧
      Json.Members.get? outs.flatten field.name = alone.get? field.name := by
  induction hall with
  | nil => exact absurd h (by simp)
  | @cons first alone fields outs ha hrest ih =>
    obtain ⟨hfirst, hd⟩ := List.nodup_cons.1 hd
    have hlookup : Json.Members.get? (alone :: outs).flatten field.name =
        (alone.get? field.name).or (Json.Members.get? outs.flatten field.name) := by
      unfold Json.Members.get?
      rw [List.flatten_cons, List.lookup_append]
    -- found in its own output, since no later one has the name
    rcases List.mem_cons.1 h with rfl | h
    · have hnone : Json.Members.get? outs.flatten field.name = none :=
        Sorted.get?_eq_none.2 fun hm => hfirst (mem_keys_flatten hrest hm)
      refine ⟨alone, ha, ?_⟩
      rw [hlookup, hnone, Option.or_none]
    · have hne : field.name ≠ first.name := fun he => hfirst (he ▸ List.mem_map_of_mem h)
      have hnone : alone.get? field.name = none :=
        Sorted.get?_eq_none.2 fun hm => hne (mem_keys_run_only ha hm)
      obtain ⟨other, ho, hget⟩ := ih hd h
      refine ⟨other, ho, ?_⟩
      rw [hlookup, hnone, Option.none_or, hget]

theorem isPresent_of_mem (hd : (plan.fields.map Field.name).Nodup) {field : Field}
    (h : field ∈ plan.fields) :
    plan.isPresent registry switches c field.name = field.isPresent registry switches c := by
  unfold isPresent field?
  rw [find?_name_of_mem hd h]
  rfl

theorem filter_isPresent (hd : (plan.fields.map Field.name).Nodup) {field : Field}
    (h : field ∈ plan.fields) {alone : Json.Members}
    (ha : ∀ name ∈ alone.keys, name = field.name) :
    alone.filter (fun entry => plan.isPresent registry switches c entry.1) =
      if field.isPresent registry switches c then alone else [] := by
  have hentry : ∀ entry ∈ alone,
      plan.isPresent registry switches c entry.1 = field.isPresent registry switches c := by
    intro entry he
    rw [ha entry.1 (List.mem_map_of_mem he), isPresent_of_mem hd h]
  rw [List.filter_congr hentry]
  cases field.isPresent registry switches c <;> simp

theorem run_omit_of_null (hd : (plan.fields.map Field.name).Nodup) {out : Json.Members}
    (h : plan.run registry { switches with absentFields := .null } c = .ok out) :
    plan.run registry { switches with absentFields := .omit } c =
      .ok (out.filter fun entry => plan.isPresent registry switches c entry.1) := by
  obtain ⟨outs, hall, rfl⟩ := run_eq_ok.1 h
  -- over any part of the fields: what each of them leaves out is what the filter drops
  have hfields : ∀ fields outs,
      RunAlone plan registry { switches with absentFields := .null } c fields outs →
      (∀ field ∈ fields, field ∈ plan.fields) → ∃ kept,
        RunAlone plan registry { switches with absentFields := .omit } c fields kept ∧
          kept.flatten =
            outs.flatten.filter fun entry => plan.isPresent registry switches c entry.1 := by
    intro fields outs hall
    induction hall with
    | nil => exact fun _ => ⟨[], .nil, rfl⟩
    | @cons field alone fields outs ha _ ih =>
      intro hmem
      obtain ⟨kept, hkept, hflat⟩ := ih fun other ho => hmem other (List.mem_cons_of_mem _ ho)
      have hfilter : alone.filter (fun entry => plan.isPresent registry switches c entry.1) =
          if field.isPresent registry switches c then alone else [] :=
        filter_isPresent hd (hmem field List.mem_cons_self) fun _ => mem_keys_run_only ha
      refine ⟨_, .cons (run_only_omit ha) hkept, ?_⟩
      rw [List.flatten_cons, List.flatten_cons, List.filter_append, hfilter, hflat]
  obtain ⟨kept, hkept, hflat⟩ := hfields plan.fields outs hall fun _ hmem => hmem
  exact run_eq_ok.2 ⟨kept, hkept, hflat⟩

/-- A run is all or nothing, and each field comes to what it comes to alone. -/
structure Fieldwise (plan : Plan) (registry : Filter.Registry) (switches : Switches)
    (c : Container) : Prop where
  succeeds : (∃ out, plan.run registry switches c = .ok out) ↔
    ∀ field ∈ plan.fields, ∃ alone, (plan.only field).run registry switches c = .ok alone
  /-- The error is that of the first field that fails. -/
  fails : ∀ error, plan.run registry switches c = .error error ↔
    ∃ before field behind, plan.fields = before ++ field :: behind ∧
      (∀ earlier ∈ before, ∃ alone,
        (plan.only earlier).run registry switches c = .ok alone) ∧
      (plan.only field).run registry switches c = .error error
  names : ∀ out, plan.run registry switches c = .ok out → out.keys =
    match switches.absentFields with
    | .null => plan.fields.map Field.name
    | .omit => (plan.fields.filter (·.isPresent registry switches c)).map Field.name
  values : ∀ out, plan.run registry switches c = .ok out → ∀ field ∈ plan.fields,
    ∃ alone, (plan.only field).run registry switches c = .ok alone ∧
      out.get? field.name = alone.get? field.name
  /-- No name comes twice, so the members stay as they are when they are inserted one by one. -/
  distinct : ∀ out, plan.run registry switches c = .ok out →
    out.keys.Nodup ∧ Json.Members.ofList out = out
  /-- What is null for want of a value can be left out instead. -/
  omits : ∀ out, plan.run registry { switches with absentFields := .null } c = .ok out →
    plan.run registry { switches with absentFields := .omit } c =
      .ok (out.filter fun entry => plan.isPresent registry switches c entry.1)

theorem names_of_run {out : Json.Members} (h : plan.run registry switches c = .ok out) :
    out.keys = match switches.absentFields with
      | .null => plan.fields.map Field.name
      | .omit => (plan.fields.filter (·.isPresent registry switches c)).map Field.name := by
  obtain ⟨outs, hall, rfl⟩ := run_eq_ok.1 h
  split
  · next hs => exact keys_flatten_null hs hall
  · next hs => exact keys_flatten_omit hs hall

theorem nodup_keys_of_run (hd : (plan.fields.map Field.name).Nodup) {out : Json.Members}
    (h : plan.run registry switches c = .ok out) : out.keys.Nodup := by
  rw [names_of_run h]
  split
  · exact hd
  · exact hd.sublist (List.filter_sublist.map Field.name)

theorem fieldwise_of_nodup (hd : (plan.fields.map Field.name).Nodup)
    (registry : Filter.Registry) (switches : Switches) (c : Container) :
    Fieldwise plan registry switches c := by
  refine ⟨exists_run_eq_ok_iff, fun _ => run_eq_error_iff, fun _ => names_of_run, ?_, ?_,
    fun _ => run_omit_of_null hd⟩
  · intro out h field hfield
    obtain ⟨outs, hall, rfl⟩ := run_eq_ok.1 h
    exact get?_flatten hall hd hfield
  · intro out h
    have hnodup := nodup_keys_of_run hd h
    exact ⟨hnodup, Json.Members.ofList_of_nodup hnodup⟩

end Reshape.Plan

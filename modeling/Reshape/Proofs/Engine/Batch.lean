import Reshape.Engine.Batch
import Reshape.Proofs.Engine.Answers
import Reshape.Proofs.Engine.Counts

namespace Reshape.Engine

variable {parts : Parts} {engine : Engine} {calls : List Call} {id : String} {o : Overrides}

/-- Whatever else was asked under the same overrides, a record comes to what it comes to alone. -/
theorem fst_resolve_after (hb : build parts = .ok engine) (hu : overridesOf calls ⊆ [o])
    (id : String) (c : Container) :
    ((engine.after calls).resolve id c o).1 = (engine.resolve id c o).1 := by
  rw [fst_resolve_after_eq_fresh hb (toldApart_singleton engine o) hu id
    (List.mem_singleton_self o), fst_resolve_eq_fresh hb]

def batchOf (id : String) (o : Overrides) (records : List Json) : List Call :=
  records.map fun record => .resolve id (.ofJson record) o

theorem overridesOf_append_batch (hu : overridesOf calls ⊆ [o]) (id : String)
    (records : List Json) : overridesOf (calls ++ batchOf id o records) ⊆ [o] := by
  rw [overridesOf_append]
  refine List.append_subset.2 ⟨hu, fun other hother => ?_⟩
  obtain ⟨call, hcall, hmem⟩ := List.mem_flatMap.1 hother
  obtain ⟨record, -, rfl⟩ := List.mem_map.1 hcall
  exact hmem

/-- One step of a batch: what the record comes to alone, and the engine behind one more call. -/
theorem resolveFrom_after_cons (hb : build parts = .ok engine) (hu : overridesOf calls ⊆ [o])
    (index : ℕ) (record : Json) (records : List Json) :
    (engine.after calls).resolveFrom id o index (record :: records) =
      match (engine.resolve id (.ofJson record) o).1 with
      | .error error => .error (index, error)
      | .ok fields =>
        ((engine.after (calls ++ batchOf id o [record])).resolveFrom id o (index + 1)
          records).map fun found => (.object fields :: found.1, found.2) := by
  have hbehind : engine.after (calls ++ batchOf id o [record]) =
      ((engine.after calls).resolve id (.ofJson record) o).2 := after_append engine calls _
  rw [resolveFrom, ← fst_resolve_after hb hu, hbehind]
  cases (engine.after calls).resolve id (.ofJson record) o with
  | mk outcome behind =>
    cases outcome with
    | error error => rfl
    | ok fields =>
      simp only
      cases behind.resolveFrom id o (index + 1) records <;> rfl

/-- A batch without a record that fails: the maps of all records in their order. -/
theorem resolveFrom_of_forall₂ (hb : build parts = .ok engine) (hu : overridesOf calls ⊆ [o])
    (index : ℕ) {records : List Json} {maps : List Json.Members}
    (h : List.Forall₂ (fun record fields => (engine.resolve id (.ofJson record) o).1 = .ok fields)
      records maps) :
    (engine.after calls).resolveFrom id o index records =
      .ok (maps.map .object, engine.after (calls ++ batchOf id o records)) := by
  -- every record finds the engine behind all calls so far, under the same overrides
  induction h generalizing calls index with
  | nil => simp [resolveFrom, batchOf]
  | @cons record fields records maps hrecord _ ih =>
    have hcalls : calls ++ batchOf id o [record] ++ batchOf id o records =
        calls ++ batchOf id o (record :: records) := by simp [batchOf]
    rw [resolveFrom_after_cons hb hu, hrecord]
    simp only
    rw [ih (overridesOf_append_batch hu id [record]), hcalls]
    rfl

/-- A batch up to the first record that fails. -/
theorem resolveFrom_of_fails (hb : build parts = .ok engine) (hu : overridesOf calls ⊆ [o])
    (index : ℕ) {before : List Json} {record : Json} {error : Error}
    (hbefore : ∀ earlier ∈ before, ∃ fields,
      (engine.resolve id (.ofJson earlier) o).1 = .ok fields)
    (h : (engine.resolve id (.ofJson record) o).1 = .error error) (behind : List Json) :
    (engine.after calls).resolveFrom id o index (before ++ record :: behind) =
      .error (index + before.length, error) := by
  induction before generalizing calls index with
  | nil =>
    rw [List.nil_append, resolveFrom_after_cons hb hu, h]
    rfl
  | cons first before ih =>
    obtain ⟨fields, hfirst⟩ := hbefore first List.mem_cons_self
    have hrest := ih (overridesOf_append_batch hu id [first]) (index + 1)
      fun earlier he => hbefore earlier (List.mem_cons_of_mem _ he)
    rw [List.cons_append, resolveFrom_after_cons hb hu, hfirst]
    simp only
    rw [hrest, List.length_cons, Nat.add_right_comm, Nat.add_assoc]
    rfl

/-- Records that are mapped one behind another, all of them under one plan. -/
theorem answers_resolveFrom (hb : build parts = .ok engine) (hu : overridesOf calls ⊆ [o])
    {plan : Plan} (h : engine.freshPlan id o = .ok plan) {index : Nat} {records : List Json}
    {failure : Nat × Error}
    (hfails : (engine.after calls).resolveFrom id o index records = .error failure) :
    plan.Answers (.error failure.2) := by
  cases hall : records.mapM fun record => (engine.resolve id (.ofJson record) o).1 with
  | ok maps =>
    rw [resolveFrom_of_forall₂ hb hu index (Outcome.mapM_eq_ok.1 hall)] at hfails
    exact absurd hfails (by simp)
  | error error =>
    obtain ⟨before, record, behind, rfl, hbefore, hrecord⟩ := Outcome.mapM_eq_error.1 hall
    rw [resolveFrom_of_fails hb hu index hbefore hrecord] at hfails
    obtain rfl := Except.error.inj hfails
    have hplan : ((engine.after []).plan id o).1 = .ok plan :=
      (plan_eq_freshPlan_of_build hb id o).trans h
    have hanswers : plan.Answers ((engine.after []).resolve id (.ofJson record) o).1 :=
      answers_resolve hb hplan _
    exact hrecord ▸ hanswers

theorem keyOf?_of_plan {plan : Plan} (h : (engine.plan id o).1 = .ok plan) (c : Container) :
    engine.keyOf? (.plan id o) = some ⟨id, o.fingerprint⟩ ∧
      engine.keyOf? (.resolve id c o) = some ⟨id, o.fingerprint⟩ := by
  cases hd : engine.descriptor? id with
  | none =>
    rw [plan_eq_of_unknown hd] at h
    exact absurd h (by simp)
  | some d => simp [keyOf?, hd]

theorem live_batch {key : Plan.Key} (h : engine.keyOf? (.plan id o) = some key)
    (records : List Json) : engine.Live (.plan id o :: batchOf id o records) key := by
  refine ⟨[], _, _, rfl, h, fun later hlater => ?_⟩
  obtain ⟨record, -, rfl⟩ := List.mem_map.1 hlater
  exact not_false

/-- With a cache the first look-up is a miss, and every record is a hit. -/
theorem stats_after_batch_enabled (he : engine.cache.enabled = true)
    (hempty : engine.cache.entries = []) (hhits : engine.cache.hits = 0)
    (hmisses : engine.cache.misses = 0) {plan : Plan} (hplan : (engine.plan id o).1 = .ok plan)
    (records : List Json) :
    (engine.after (.plan id o :: batchOf id o records)).stats = ⟨1, records.length, 1⟩ := by
  have hkey := keyOf?_of_plan hplan
  -- from the last record back, since a call is counted by the history before it
  induction records using List.reverseRecOn with
  | nil =>
    have hmiss := (tracked_of_enabled he hempty []).miss _ _ (hkey (.ofMembers [])).1
      (not_live_nil _)
    have hzero : engine.stats = ⟨0, 0, 0⟩ := by
      simp [stats, Plan.Cache.stats, hempty, hhits, hmisses]
    simpa [after, batchOf, hzero] using hmiss
  | append_singleton records record ih =>
    have hlive := live_batch (hkey (.ofMembers [])).1 records
    have hhit := (tracked_of_enabled he hempty _).hit _ _ (hkey (.ofJson record)).2 hlive
    rw [ih] at hhit
    simpa [batchOf] using hhit

/-- Without a cache every look-up is a miss. -/
theorem stats_after_batch_disabled (he : engine.cache.enabled = false)
    (hempty : engine.cache.entries = []) (hhits : engine.cache.hits = 0)
    (hmisses : engine.cache.misses = 0) {plan : Plan} (hplan : (engine.plan id o).1 = .ok plan)
    (records : List Json) :
    (engine.after (.plan id o :: batchOf id o records)).stats = ⟨0, 0, records.length + 1⟩ := by
  have hkey := keyOf?_of_plan hplan
  have hunused := unused_of_disabled he hempty hhits (.plan id o :: batchOf id o records)
  have hlookups := lookups_after hhits hmisses (.plan id o :: batchOf id o records)
  have hcount : (.plan id o :: batchOf id o records : List Call).countP
      (fun call => (engine.keyOf? call).isSome) = records.length + 1 := by
    rw [List.countP_eq_length.2]
    · simp [batchOf]
    · intro call hcall
      rcases List.mem_cons.1 hcall with rfl | hcall
      · simp [(hkey (.ofMembers [])).1]
      · obtain ⟨record, -, rfl⟩ := List.mem_map.1 hcall
        simp [(hkey (.ofJson record)).2]
  rw [hunused.hits, hcount, Nat.zero_add] at hlookups
  have hparts : ∀ counts : Plan.Cache.Stats,
      counts = ⟨counts.size, counts.hits, counts.misses⟩ := fun _ => rfl
  rw [hparts (engine.after _).stats, hunused.size, hunused.hits, hlookups]

/-- The plan is looked up once before the batch and once for each record. -/
theorem stats_after_batch (hb : build parts = .ok engine) {plan : Plan}
    (hplan : (engine.plan id o).1 = .ok plan) (records : List Json) :
    (engine.after (.plan id o :: batchOf id o records)).stats =
      if parts.switches.cacheEnabled then ⟨1, records.length, 1⟩
      else ⟨0, 0, records.length + 1⟩ := by
  obtain ⟨types, -, rfl⟩ := build_eq_ok.1 hb
  split
  · next he => exact stats_after_batch_enabled he rfl rfl rfl hplan records
  · next he => exact stats_after_batch_disabled (by simpa using he) rfl rfl rfl hplan records

end Reshape.Engine

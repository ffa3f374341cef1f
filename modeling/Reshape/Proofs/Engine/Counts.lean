import Mathlib.Data.Set.Card
import Reshape.Proofs.Engine.Calls

namespace Reshape.Engine

/-- The key that a call looks up, if its type is known. -/
def keyOf? (engine : Engine) : Call → Option Plan.Key
  | .resolve id _ o => (engine.descriptor? id).map fun _ => ⟨id, o.fingerprint⟩
  | .plan id o => (engine.descriptor? id).map fun _ => ⟨id, o.fingerprint⟩
  | .invalidate _ => none
  | .clearCache => none

/-- Whether a call drops what is kept under a key. -/
def Call.Drops (key : Plan.Key) : Call → Prop
  | .resolve .. => False
  | .plan .. => False
  | .invalidate id => id = key.typeId
  | .clearCache => True

/-- Some call of a run looked the key up, and no later one dropped it. -/
def Live (engine : Engine) (run : List Call) (key : Plan.Key) : Prop :=
  ∃ before call behind, run = before ++ call :: behind ∧ engine.keyOf? call = some key ∧
    ∀ later ∈ behind, ¬later.Drops key

variable {engine : Engine}

theorem not_drops_of_keyOf? {call : Call} {key : Plan.Key} (h : engine.keyOf? call = some key)
    (other : Plan.Key) : ¬call.Drops other := by
  cases call with
  | resolve id c o => exact not_false
  | plan id o => exact not_false
  | invalidate id => exact absurd h (by simp [keyOf?])
  | clearCache => exact absurd h (by simp [keyOf?])

theorem not_live_nil (key : Plan.Key) : ¬engine.Live [] key := by
  rintro ⟨before, call, behind, h, -⟩
  exact absurd h (by simp)

theorem live_append_singleton {run : List Call} {call : Call} {key : Plan.Key} :
    engine.Live (run ++ [call]) key ↔
      engine.keyOf? call = some key ∨ engine.Live run key ∧ ¬call.Drops key := by
  constructor
  · rintro ⟨before, first, behind, hrun, hkey, hkept⟩
    -- the look-up is the last call, or the last call is among those behind it
    rcases List.eq_nil_or_concat behind with rfl | ⟨between, last, rfl⟩
    · obtain ⟨-, hlast⟩ := List.append_inj' hrun rfl
      obtain rfl : call = first := by simpa using hlast
      exact .inl hkey
    · have hrun' : run ++ [call] = (before ++ first :: between) ++ [last] := by
        simpa using hrun
      obtain ⟨rfl, hlast⟩ := List.append_inj' hrun' rfl
      obtain rfl : call = last := by simpa using hlast
      refine .inr ⟨⟨before, first, between, rfl, hkey, ?_⟩, hkept call (by simp)⟩
      intro later hlater
      exact hkept later (by simp [hlater])
  · rintro (hkey | ⟨⟨before, first, behind, rfl, hkey, hkept⟩, hcall⟩)
    · exact ⟨run, call, [], rfl, hkey, by simp⟩
    · refine ⟨before, first, behind ++ [call], by simp, hkey, ?_⟩
      intro later hlater
      rcases List.mem_append.1 hlater with h | h
      · exact hkept later h
      · obtain rfl := List.mem_singleton.1 h
        exact hcall

theorem keyOf?_serve (engine : Engine) (call : Call) :
    (engine.serve call).2.keyOf? = engine.keyOf? := by
  obtain ⟨cache, -, h⟩ := exists_cache_serve engine call
  rw [h]
  funext other
  cases other <;> rfl

theorem keyOf?_after (engine : Engine) (run : List Call) :
    (engine.after run).keyOf? = engine.keyOf? := by
  induction run generalizing engine with
  | nil => rfl
  | cons call run ih => exact (ih (engine.serve call).2).trans (keyOf?_serve engine call)

theorem enabled_after (engine : Engine) (run : List Call) :
    (engine.after run).cache.enabled = engine.cache.enabled := by
  induction run generalizing engine with
  | nil => rfl
  | cons call run ih =>
    obtain ⟨cache, he, h⟩ := exists_cache_serve engine call
    have hrest := ih (engine.serve call).2
    rw [h] at hrest
    rw [after, h, hrest, he]

theorem cache_serve_of_keyOf? {call : Call} {key : Plan.Key}
    (h : engine.keyOf? call = some key) : ∃ build,
      (engine.serve call).2.cache = (engine.cache.getOrBuild key build).2 := by
  have hplan : ∀ (id : String) (o : Overrides),
      (engine.descriptor? id).map (fun _ => Plan.Key.mk id o.fingerprint) = some key →
        ∃ build, (engine.plan id o).2.cache = (engine.cache.getOrBuild key build).2 := by
    intro id o hkey
    obtain ⟨d, hd, rfl⟩ := Option.map_eq_some_iff.1 hkey
    exact ⟨_, by rw [plan_eq_of_descriptor? hd]⟩
  cases call with
  | resolve id c o => exact hplan id o h
  | plan id o => exact hplan id o h
  | invalidate id => exact absurd h (by simp [keyOf?])
  | clearCache => exact absurd h (by simp [keyOf?])

theorem cache_serve_of_keyOf?_eq_none {call : Call} (h : engine.keyOf? call = none) :
    (engine.serve call).2.cache = engine.cache ∧ (∀ key, ¬call.Drops key) ∨
      (∃ id, call = .invalidate id ∧
        (engine.serve call).2.cache = (engine.cache.invalidate id).2) ∨
      call = .clearCache ∧ (engine.serve call).2.cache = engine.cache.clear := by
  have hplan : ∀ (id : String) (o : Overrides),
      (engine.descriptor? id).map (fun _ => Plan.Key.mk id o.fingerprint) = none →
        (engine.plan id o).2.cache = engine.cache := by
    intro id o hkey
    rw [plan_eq_of_unknown (Option.map_eq_none_iff.1 hkey)]
  cases call with
  | resolve id c o => exact .inl ⟨hplan id o h, fun _ => not_false⟩
  | plan id o => exact .inl ⟨hplan id o h, fun _ => not_false⟩
  | invalidate id => exact .inr (.inl ⟨id, rfl, rfl⟩)
  | clearCache => exact .inr (.inr ⟨rfl, rfl⟩)

theorem counts_serve_of_keyOf?_eq_none {call : Call} (h : engine.keyOf? call = none) :
    (engine.serve call).2.stats.hits = engine.stats.hits ∧
      (engine.serve call).2.stats.misses = engine.stats.misses := by
  unfold stats Plan.Cache.stats
  rcases cache_serve_of_keyOf?_eq_none h with ⟨hc, -⟩ | ⟨id, -, hc⟩ | ⟨-, hc⟩
  · rw [hc]
    exact ⟨rfl, rfl⟩
  · rw [hc]
    exact ⟨rfl, rfl⟩
  · rw [hc]
    exact ⟨rfl, rfl⟩

/-- A key is kept behind a call that looked it up, and behind any other that did not drop it. -/
theorem mem_keys_serve (he : engine.cache.enabled = true) (call : Call) (key : Plan.Key) :
    key ∈ (engine.serve call).2.cache.keys ↔
      engine.keyOf? call = some key ∨ key ∈ engine.cache.keys ∧ ¬call.Drops key := by
  cases h : engine.keyOf? call with
  | some looked =>
    obtain ⟨build, hc⟩ := cache_serve_of_keyOf? h
    have hkept := not_drops_of_keyOf? h key
    rw [hc, Plan.Cache.mem_keys_getOrBuild he, Option.some_inj, eq_comm (a := looked),
      and_iff_left hkept]
  | none =>
    rcases cache_serve_of_keyOf?_eq_none h with ⟨hc, hkept⟩ | ⟨id, rfl, hc⟩ | ⟨rfl, hc⟩
    · rw [hc]
      simp [hkept key]
    · rw [hc, Plan.Cache.keys_invalidate, List.mem_filter]
      have hdrops : (Call.invalidate id).Drops key ↔ key.typeId = id := eq_comm
      simp [hdrops]
    · rw [hc]
      simp [Call.Drops, Plan.Cache.clear, Plan.Cache.keys]

theorem nodup_keys_serve (he : engine.cache.enabled = true) (h : engine.cache.keys.Nodup)
    (call : Call) : (engine.serve call).2.cache.keys.Nodup := by
  cases hkey : engine.keyOf? call with
  | some looked =>
    obtain ⟨build, hc⟩ := cache_serve_of_keyOf? hkey
    rw [hc]
    exact Plan.Cache.nodup_keys_getOrBuild he h
  | none =>
    rcases cache_serve_of_keyOf?_eq_none hkey with ⟨hc, -⟩ | ⟨id, -, hc⟩ | ⟨-, hc⟩
    · rwa [hc]
    · rw [hc, Plan.Cache.keys_invalidate]
      exact h.filter _
    · rw [hc]
      exact List.nodup_nil

theorem mem_keys_after (he : engine.cache.enabled = true) (hempty : engine.cache.entries = [])
    (run : List Call) (key : Plan.Key) :
    key ∈ (engine.after run).cache.keys ↔ engine.Live run key := by
  induction run using List.reverseRecOn with
  | nil =>
    have hnone : engine.cache.keys = [] := by rw [Plan.Cache.keys, hempty, List.map_nil]
    simp [after, hnone, not_live_nil]
  | append_singleton run call ih =>
    have he' : (engine.after run).cache.enabled = true := (enabled_after engine run).trans he
    rw [after_append, live_append_singleton, ← ih]
    change key ∈ ((engine.after run).serve call).2.cache.keys ↔ _
    rw [mem_keys_serve he', keyOf?_after]

theorem nodup_keys_after (he : engine.cache.enabled = true)
    (hempty : engine.cache.entries = []) (run : List Call) :
    (engine.after run).cache.keys.Nodup := by
  induction run using List.reverseRecOn with
  | nil =>
    have hnone : engine.cache.keys = [] := by rw [Plan.Cache.keys, hempty, List.map_nil]
    simp [after, hnone]
  | append_singleton run call ih =>
    rw [after_append]
    exact nodup_keys_serve ((enabled_after engine run).trans he) ih call

theorem lookups_serve (engine : Engine) (call : Call) :
    (engine.serve call).2.stats.hits + (engine.serve call).2.stats.misses =
      engine.stats.hits + engine.stats.misses +
        if (engine.keyOf? call).isSome then 1 else 0 := by
  cases h : engine.keyOf? call with
  | none =>
    obtain ⟨hhits, hmisses⟩ := counts_serve_of_keyOf?_eq_none h
    rw [hhits, hmisses]
    rfl
  | some key =>
    obtain ⟨build, hc⟩ := cache_serve_of_keyOf? h
    unfold stats Plan.Cache.stats
    rw [hc]
    exact Plan.Cache.lookups_getOrBuild

theorem lookups_after (hhits : engine.cache.hits = 0) (hmisses : engine.cache.misses = 0)
    (run : List Call) :
    (engine.after run).stats.hits + (engine.after run).stats.misses =
      run.countP fun call => (engine.keyOf? call).isSome := by
  induction run using List.reverseRecOn with
  | nil =>
    have hstats : engine.stats.hits + engine.stats.misses = 0 := by
      simp [stats, Plan.Cache.stats, hhits, hmisses]
    simpa [after] using hstats
  | append_singleton run call ih =>
    rw [after_append, List.countP_append, ← ih]
    change ((engine.after run).serve call).2.stats.hits +
      ((engine.after run).serve call).2.stats.misses = _
    rw [lookups_serve, keyOf?_after, List.countP_singleton]

theorem unused_serve (he : engine.cache.enabled = false) (hempty : engine.cache.entries = [])
    (hhits : engine.cache.hits = 0) (call : Call) :
    (engine.serve call).2.cache.entries = [] ∧ (engine.serve call).2.cache.hits = 0 := by
  cases h : engine.keyOf? call with
  | some key =>
    obtain ⟨build, hc⟩ := cache_serve_of_keyOf? h
    rw [hc, Plan.Cache.getOrBuild_of_disabled he]
    exact ⟨hempty, hhits⟩
  | none =>
    rcases cache_serve_of_keyOf?_eq_none h with ⟨hc, -⟩ | ⟨id, -, hc⟩ | ⟨-, hc⟩
    · rw [hc]
      exact ⟨hempty, hhits⟩
    · rw [hc]
      exact ⟨by simp [Plan.Cache.invalidate, hempty], hhits⟩
    · rw [hc]
      exact ⟨rfl, hhits⟩

theorem unused_after (he : engine.cache.enabled = false) (hempty : engine.cache.entries = [])
    (hhits : engine.cache.hits = 0) (run : List Call) :
    (engine.after run).cache.entries = [] ∧ (engine.after run).cache.hits = 0 := by
  induction run using List.reverseRecOn with
  | nil => exact ⟨hempty, hhits⟩
  | append_singleton run call ih =>
    rw [after_append]
    exact unused_serve ((enabled_after engine run).trans he) ih.1 ih.2 call

theorem encard_of_nodup {keys : List Plan.Key} (h : keys.Nodup) :
    {key | key ∈ keys}.encard = keys.length := by
  have hset : {key | key ∈ keys} = (keys.toFinset : Set Plan.Key) := by
    ext key
    simp
  rw [hset, Set.encard_coe_eq_coe_finsetCard, List.toFinset_card_of_nodup h]

/-- What is counted: each look-up of a known type once, and no other call. -/
structure Counted (engine : Engine) (run : List Call) : Prop where
  lookups : (engine.after run).stats.hits + (engine.after run).stats.misses =
    run.countP fun call => (engine.keyOf? call).isSome
  uncounted : ∀ call, engine.keyOf? call = none →
    (engine.after (run ++ [call])).stats.hits = (engine.after run).stats.hits ∧
      (engine.after (run ++ [call])).stats.misses = (engine.after run).stats.misses

/-- With a cache: the next look-up is a hit if its key is live and else a miss, live keys are what
is kept, and invalidating a type removes the live keys of that type alone. -/
structure Tracked (engine : Engine) (run : List Call) : Prop where
  hit : ∀ call key, engine.keyOf? call = some key → engine.Live run key →
    (engine.after (run ++ [call])).stats =
      ⟨(engine.after run).stats.size, (engine.after run).stats.hits + 1,
        (engine.after run).stats.misses⟩
  miss : ∀ call key, engine.keyOf? call = some key → ¬engine.Live run key →
    (engine.after (run ++ [call])).stats =
      ⟨(engine.after run).stats.size + 1, (engine.after run).stats.hits,
        (engine.after run).stats.misses + 1⟩
  kept : ∀ key, (engine.after run).cache.contains key = true ↔ engine.Live run key
  size : {key | engine.Live run key}.encard = (engine.after run).stats.size
  removed : ∀ id, {key | engine.Live run key ∧ key.typeId = id}.encard =
    ((engine.after run).invalidate id).1
  spared : ∀ id key, ((engine.after run).invalidate id).2.cache.contains key = true ↔
    engine.Live run key ∧ key.typeId ≠ id

/-- Without a cache: there are no hits, nothing is kept and nothing removed. -/
structure Unused (engine : Engine) (run : List Call) : Prop where
  hits : (engine.after run).stats.hits = 0
  size : (engine.after run).stats.size = 0
  removed : ∀ id, ((engine.after run).invalidate id).1 = 0

theorem counted_of_zero (hhits : engine.cache.hits = 0) (hmisses : engine.cache.misses = 0)
    (run : List Call) : Counted engine run := by
  refine ⟨lookups_after hhits hmisses run, ?_⟩
  intro call hcall
  rw [← keyOf?_after engine run] at hcall
  rw [after_append]
  exact counts_serve_of_keyOf?_eq_none hcall

theorem tracked_of_enabled (he : engine.cache.enabled = true)
    (hempty : engine.cache.entries = []) (run : List Call) : Tracked engine run := by
  have he' : (engine.after run).cache.enabled = true := (enabled_after engine run).trans he
  have hlive : ∀ key, key ∈ (engine.after run).cache.keys ↔ engine.Live run key :=
    mem_keys_after he hempty run
  have hnodup : (engine.after run).cache.keys.Nodup := nodup_keys_after he hempty run
  have hlook : ∀ call key, engine.keyOf? call = some key → ∃ build,
      (engine.after (run ++ [call])).cache =
        ((engine.after run).cache.getOrBuild key build).2 := by
    intro call key hkey
    rw [after_append]
    exact cache_serve_of_keyOf? (keyOf?_after engine run ▸ hkey)
  -- live keys are the keys that are kept, so every count is one of the cache's own
  refine ⟨?_, ?_, ?_, ?_, ?_, ?_⟩
  · intro call key hkey hl
    obtain ⟨build, hc⟩ := hlook call key hkey
    unfold stats
    rw [hc, Plan.Cache.getOrBuild_of_mem he' ((hlive key).2 hl)]
    rfl
  · intro call key hkey hl
    obtain ⟨build, hc⟩ := hlook call key hkey
    unfold stats
    rw [hc, Plan.Cache.getOrBuild_of_not_mem he' fun hmem => hl ((hlive key).1 hmem)]
    rfl
  · intro key
    rw [Plan.Cache.contains_iff, hlive]
  · have hset : {key | engine.Live run key} = {key | key ∈ (engine.after run).cache.keys} := by
      ext key
      exact (hlive key).symm
    rw [hset, encard_of_nodup hnodup]
    exact congrArg Nat.cast Plan.Cache.size_stats.symm
  · intro id
    have hset : {key | engine.Live run key ∧ key.typeId = id} =
        {key | key ∈ (engine.after run).cache.keys.filter fun key => key.typeId = id} := by
      ext key
      simp [hlive]
    rw [hset, encard_of_nodup (hnodup.filter _)]
    exact congrArg Nat.cast (Plan.Cache.removed_invalidate id).symm
  · intro id key
    change ((engine.after run).cache.invalidate id).2.contains key = true ↔ _
    rw [Plan.Cache.contains_iff, Plan.Cache.keys_invalidate, List.mem_filter, hlive]
    simp

theorem unused_of_disabled (he : engine.cache.enabled = false)
    (hempty : engine.cache.entries = []) (hhits : engine.cache.hits = 0) (run : List Call) :
    Unused engine run := by
  obtain ⟨hentries, hnone⟩ := unused_after he hempty hhits run
  refine ⟨hnone, ?_, ?_⟩
  · simp [stats, Plan.Cache.stats, hentries]
  · intro id
    simp [invalidate, Plan.Cache.invalidate, hentries]

/-- Behind any run of an engine as it was built the counts are exact. -/
theorem counts_exact {parts : Parts} {engine : Engine} (hb : build parts = .ok engine)
    (run : List Call) :
    Counted engine run ∧ (parts.switches.cacheEnabled = true → Tracked engine run) ∧
      (parts.switches.cacheEnabled = false → Unused engine run) := by
  obtain ⟨types, -, rfl⟩ := build_eq_ok.1 hb
  exact ⟨counted_of_zero rfl rfl run, fun he => tracked_of_enabled he rfl run,
    fun he => unused_of_disabled he rfl rfl run⟩

/-- A type whose plan can be built and one whose template names a filter that is not there. -/
def shopParts : Parts :=
  { types := [
      { id := "Order", fields := [{ name := "id" }] },
      { id := "Customer", fields := [{ name := "name" }],
        template := [("name", .string "{{ name | shout }}")] }]
    registry := .empty }

def shopPartsWithoutCache : Parts := { shopParts with switches := { cacheEnabled := false } }

/-- Each type is looked up twice, then a type that is not known, and one of them once more behind
its invalidation. -/
def shopRun : List Call :=
  [.plan "Order" {}, .resolve "Order" (.ofMembers [("id", .ofNat 7)]) {}, .plan "Customer" {},
    .resolve "Customer" (.ofMembers []) {}, .plan "Refund" {}, .invalidate "Order",
    .plan "Order" {}]

theorem counts_exact_shopRun :
    (∃ engine, build shopParts = .ok engine ∧ shopParts.switches.cacheEnabled = true ∧
      Tracked engine shopRun ∧
      (engine.after shopRun).stats.hits + (engine.after shopRun).stats.misses = 5 ∧
      {key | engine.Live shopRun key}.encard = 2) ∧
    ∃ plain, build shopPartsWithoutCache = .ok plain ∧
      shopPartsWithoutCache.switches.cacheEnabled = false ∧
      Unused plain shopRun ∧ (plain.after shopRun).stats.misses = 5 := by
  obtain ⟨engine, hb⟩ : ∃ engine, build shopParts = .ok engine := ⟨_, rfl⟩
  obtain ⟨plain, hp⟩ : ∃ plain, build shopPartsWithoutCache = .ok plain := ⟨_, rfl⟩
  obtain ⟨hcounted, htracked, -⟩ := counts_exact hb shopRun
  obtain ⟨hcounted', -, hunused⟩ := counts_exact hp shopRun
  have hsize : (engine.after shopRun).stats.size = 2 := by
    obtain rfl := Except.ok.inj hb
    decide +kernel
  have hlookups : (shopRun.countP fun call => (engine.keyOf? call).isSome) = 5 := by
    obtain rfl := Except.ok.inj hb
    decide +kernel
  have hlookups' : (shopRun.countP fun call => (plain.keyOf? call).isSome) = 5 := by
    obtain rfl := Except.ok.inj hp
    decide +kernel
  refine ⟨⟨engine, hb, rfl, htracked rfl, hcounted.lookups.trans hlookups, ?_⟩,
    plain, hp, rfl, hunused rfl, ?_⟩
  · rw [(htracked rfl).size, hsize]
    rfl
  · have htotal := hcounted'.lookups.trans hlookups'
    rw [(hunused rfl).hits] at htotal
    omega

end Reshape.Engine

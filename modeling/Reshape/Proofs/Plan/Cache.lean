import Mathlib.Data.List.Basic
import Reshape.Plan.Cache

namespace Reshape.Plan.Cache

variable {c : Cache} {key : Key} {build : Unit → Outcome}

theorem mem_of_find? {outcome : Outcome} (h : c.find? key = some outcome) :
    (key, outcome) ∈ c.entries := by
  unfold find? at h
  split at h
  · obtain ⟨before, behind, he, -⟩ := List.lookup_eq_some_iff.1 h
    simp [he]
  · exact absurd h (by simp)

theorem enabled_of_find? {outcome : Outcome} (h : c.find? key = some outcome) :
    c.enabled = true := by
  unfold find? at h
  split at h
  · assumption
  · exact absurd h (by simp)

theorem getOrBuild_fst : (c.getOrBuild key build).1 = (c.find? key).getD (build ()) := by
  unfold getOrBuild
  split
  · next h => simp [h]
  · next h => simp [h]

/-- What was just looked up is found again, and where nothing is kept it is built again. -/
theorem getOrBuild_getOrBuild_fst :
    ((c.getOrBuild key build).2.getOrBuild key build).1 = (c.getOrBuild key build).1 := by
  have hfind : ((c.getOrBuild key build).2.find? key).getD (build ()) =
      (c.find? key).getD (build ()) := by
    cases h : c.find? key with
    | some outcome =>
      have hhit : (c.getOrBuild key build).2 = { c with hits := c.hits + 1 } := by
        unfold getOrBuild
        rw [h]
      rw [hhit]
      exact congrArg (Option.getD · (build ())) h
    | none =>
      unfold getOrBuild
      rw [h]
      cases c.enabled <;> simp [find?]
  rw [getOrBuild_fst, getOrBuild_fst, hfind]

@[simp] theorem getOrBuild_enabled : (c.getOrBuild key build).2.enabled = c.enabled := by
  unfold getOrBuild
  split <;> rfl

/-- A look-up keeps nothing but what it built. -/
theorem mem_getOrBuild {entry : Key × Outcome} (h : entry ∈ (c.getOrBuild key build).2.entries) :
    entry = (key, build ()) ∨ entry ∈ c.entries := by
  unfold getOrBuild at h
  split at h
  · exact .inr h
  · simp only at h
    split at h
    · exact List.mem_cons.1 h
    · exact .inr h

@[simp] theorem invalidate_enabled (typeId : String) :
    (c.invalidate typeId).2.enabled = c.enabled := rfl

theorem mem_invalidate {typeId : String} {entry : Key × Outcome}
    (h : entry ∈ (c.invalidate typeId).2.entries) : entry ∈ c.entries :=
  (List.mem_filter.1 h).1

@[simp] theorem clear_enabled : c.clear.enabled = c.enabled := rfl

def keys (c : Cache) : List Key := c.entries.map Prod.fst

theorem contains_iff : c.contains key = true ↔ key ∈ c.keys := by
  unfold contains keys
  simp [List.any_eq_true]

theorem size_stats : c.stats.size = c.keys.length := by
  simp [stats, keys]

theorem find?_eq_none_iff : c.find? key = none ↔ (c.enabled = true → key ∉ c.keys) := by
  unfold find?
  cases c.enabled with
  | false => simp
  | true =>
    have hkeys : c.entries.lookup key = none ↔ key ∉ c.keys := by
      unfold keys
      rw [List.lookup_eq_none_iff]
      constructor
      · intro h hk
        obtain ⟨entry, he, rfl⟩ := List.mem_map.1 hk
        simpa using h entry he
      · intro h entry he
        have hne : key ≠ entry.1 := fun hk => h (hk ▸ List.mem_map_of_mem he)
        simpa using hne
    simpa using hkeys

/-- A hit changes one count and nothing else. -/
theorem getOrBuild_of_mem (he : c.enabled = true) (hk : key ∈ c.keys) :
    (c.getOrBuild key build).2 = { c with hits := c.hits + 1 } := by
  cases h : c.find? key with
  | none => exact absurd hk (find?_eq_none_iff.1 h he)
  | some outcome =>
    unfold getOrBuild
    rw [h]

/-- A miss keeps what was built, whether that is a plan or an error. -/
theorem getOrBuild_of_not_mem (he : c.enabled = true) (hk : key ∉ c.keys) :
    (c.getOrBuild key build).2 =
      { c with entries := (key, build ()) :: c.entries, misses := c.misses + 1 } := by
  have h : c.find? key = none := find?_eq_none_iff.2 fun _ => hk
  unfold getOrBuild
  rw [h, he]
  rfl

theorem getOrBuild_of_disabled (he : c.enabled = false) :
    (c.getOrBuild key build).2 = { c with misses := c.misses + 1 } := by
  have h : c.find? key = none := find?_eq_none_iff.2 fun ht => absurd (he.symm.trans ht) (by simp)
  unfold getOrBuild
  rw [h, he]
  rfl

theorem lookups_getOrBuild :
    (c.getOrBuild key build).2.hits + (c.getOrBuild key build).2.misses =
      c.hits + c.misses + 1 := by
  unfold getOrBuild
  split
  · exact Nat.add_right_comm c.hits 1 c.misses
  · rfl

theorem mem_keys_getOrBuild (he : c.enabled = true) {other : Key} :
    other ∈ (c.getOrBuild key build).2.keys ↔ other = key ∨ other ∈ c.keys := by
  by_cases hk : key ∈ c.keys
  · rw [getOrBuild_of_mem he hk]
    constructor
    · exact .inr
    · rintro (rfl | h)
      · exact hk
      · exact h
  · rw [getOrBuild_of_not_mem he hk]
    exact List.mem_cons

theorem nodup_keys_getOrBuild (he : c.enabled = true) (h : c.keys.Nodup) :
    (c.getOrBuild key build).2.keys.Nodup := by
  by_cases hk : key ∈ c.keys
  · rw [getOrBuild_of_mem he hk]
    exact h
  · rw [getOrBuild_of_not_mem he hk]
    exact List.nodup_cons.2 ⟨hk, h⟩

theorem keys_invalidate (typeId : String) :
    (c.invalidate typeId).2.keys = c.keys.filter fun key => key.typeId ≠ typeId := by
  unfold invalidate keys
  rw [List.filter_map]
  rfl

theorem removed_invalidate (typeId : String) :
    (c.invalidate typeId).1 = (c.keys.filter fun key => key.typeId = typeId).length := by
  have hsplit := c.entries.length_eq_length_filter_add fun entry => entry.1.typeId = typeId
  have hkeys : (c.keys.filter fun key => key.typeId = typeId).length =
      (c.entries.filter fun entry => entry.1.typeId = typeId).length := by
    unfold keys
    rw [List.filter_map, List.length_map]
    rfl
  have hkept : (c.entries.filter fun entry => entry.1.typeId ≠ typeId) =
      c.entries.filter fun entry => !decide (entry.1.typeId = typeId) := by
    simp
  unfold invalidate
  simp only [hkeys, hkept]
  omega

end Reshape.Plan.Cache

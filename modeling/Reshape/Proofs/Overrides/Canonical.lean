import Reshape.Overrides

namespace Reshape.Overrides

theorem reference_value_injective : Function.Injective fun r : Filter.Reference =>
    Json.array (.string r.name :: r.arguments) := by
  intro r s h
  obtain ⟨name, arguments⟩ := r
  obtain ⟨name', arguments'⟩ := s
  simpa using h

theorem canonicalReferences_injective : Function.Injective canonicalReferences := by
  intro rs ss h
  unfold canonicalReferences at h
  exact (List.map_inj_right reference_value_injective).1 (Json.array.inj h)

theorem canonical_injective : Function.Injective canonical := by
  intro o o' h
  obtain ⟨template, fieldFilters, pipeline⟩ := o
  obtain ⟨template', fieldFilters', pipeline'⟩ := o'
  unfold canonical at h
  simp only [Json.object.injEq, List.cons.injEq, Prod.mk.injEq, true_and, and_true] at h
  obtain ⟨ht, hf, hp⟩ := h
  have hentry : ∀ a b : String × List Filter.Reference,
      (a.1, canonicalReferences a.2) = (b.1, canonicalReferences b.2) → a = b := by
    intro a b hab
    obtain ⟨hkey, hrefs⟩ := Prod.mk.inj hab
    exact Prod.ext hkey (canonicalReferences_injective hrefs)
  rw [ht, (List.map_inj_right hentry).1 hf, canonicalReferences_injective hp]

theorem eq_empty_of_isEmpty {o : Overrides} (h : o.isEmpty = true) : o = {} := by
  obtain ⟨template, fieldFilters, pipeline⟩ := o
  simp only [isEmpty, Bool.and_eq_true, List.isEmpty_iff] at h
  obtain ⟨⟨rfl, rfl⟩, rfl⟩ := h
  rfl

/-- The digest that is kept for empty overrides is that of any of them. -/
theorem fingerprint_eq_digest (o : Overrides) : o.fingerprint = o.digest := by
  unfold fingerprint
  split
  · next h => rw [eq_empty_of_isEmpty h, emptyDigest]
  · rfl

end Reshape.Overrides

import Reshape.Proofs.Json.Injective
import Reshape.Proofs.Overrides.Canonical

namespace Reshape.Overrides

/-- What a map and JSON values promise by themselves: fields stand in their order, and no float is
infinite or no number. -/
structure WellFormed (o : Overrides) : Prop where
  ordered : o.fieldFilters.Ordered
  template : ∀ entry ∈ o.template, entry.2.Finite
  fieldFilters : ∀ entry ∈ o.fieldFilters, ∀ r ∈ entry.2, ∀ a ∈ r.arguments, a.Finite
  pipeline : ∀ r ∈ o.pipeline, ∀ a ∈ r.arguments, a.Finite

/-- Overrides that say the same: one template, its entries in one order, for every field the same
filters or none at all, and one pipeline. -/
structure Alike (a b : Overrides) : Prop where
  template : a.template = b.template
  fieldFilters : ∀ field, a.fieldFilters.get? field = b.fieldFilters.get? field
  pipeline : a.pipeline = b.pipeline

theorem finite_canonicalReferences {references : List Filter.Reference}
    (h : ∀ r ∈ references, ∀ a ∈ r.arguments, a.Finite) :
    (canonicalReferences references).Finite := by
  unfold canonicalReferences
  rw [Json.finite_array, List.forall_mem_map]
  intro r hr
  rw [Json.finite_array, List.forall_mem_cons]
  exact ⟨.string r.name, h r hr⟩

theorem WellFormed.finite_canonical {o : Overrides} (h : o.WellFormed) : o.canonical.Finite := by
  have hfilters : ∀ entry ∈ o.fieldFilters.map fun entry =>
      (entry.1, canonicalReferences entry.2), entry.2.Finite := by
    rw [List.forall_mem_map]
    exact fun entry hentry => finite_canonicalReferences (h.fieldFilters entry hentry)
  have hpipeline := finite_canonicalReferences h.pipeline
  unfold canonical
  rw [Json.finite_object]
  simp only [List.forall_mem_cons, Json.finite_object, List.not_mem_nil, false_implies,
    implies_true, and_true]
  exact ⟨h.template, hfilters, hpipeline⟩

theorem Alike.eq {a b : Overrides} (h : Alike a b) (ha : a.fieldFilters.Ordered)
    (hb : b.fieldFilters.Ordered) : a = b := by
  obtain ⟨template, fieldFilters, pipeline⟩ := a
  obtain ⟨template', fieldFilters', pipeline'⟩ := b
  have htemplate : template = template' := h.template
  have hfilters : fieldFilters = fieldFilters' := ha.ext hb h.fieldFilters
  have hpipeline : pipeline = pipeline' := h.pipeline
  rw [htemplate, hfilters, hpipeline]

theorem canonical_write_eq_iff {a b : Overrides} (ha : a.WellFormed) (hb : b.WellFormed) :
    a.canonical.write = b.canonical.write ↔ Alike a b := by
  constructor
  · intro h
    obtain rfl := canonical_injective
      (Json.write_injective ha.finite_canonical hb.finite_canonical h)
    exact ⟨rfl, fun _ => rfl, rfl⟩
  · intro h
    rw [h.eq ha.ordered hb.ordered]

/-- A step in which overrides are built. -/
inductive Call where
  | useTemplate (template : Json.Members)
  | template (field : String) (value : Json)
  | fieldFilter (field : String) (reference : Filter.Reference)
  | pipeline (reference : Filter.Reference)

def Call.apply (o : Overrides) : Call → Overrides
  | .useTemplate entries => { o with template := entries }
  | .template field value => o.setTemplate field value
  | .fieldFilter field reference => o.addFieldFilter field reference
  | .pipeline reference => o.addPipeline reference

def after (o : Overrides) (calls : List Call) : Overrides := calls.foldl Call.apply o

inductive Part where
  | template
  | field (name : String)
  | pipeline
  deriving DecidableEq

def Call.part : Call → Part
  | .useTemplate _ => .template
  | .template _ _ => .template
  | .fieldFilter field _ => .field field
  | .pipeline _ => .pipeline

theorem ordered_apply {o : Overrides} (h : o.fieldFilters.Ordered) (call : Call) :
    (call.apply o).fieldFilters.Ordered := by
  cases call with
  | fieldFilter field reference => exact h.adjust field _
  | _ => exact h

/-- Something that is read off overrides and that only the calls of one part change, each in a way
that depends on nothing else. -/
structure Reads {β : Type} (part : Part) (view : Overrides → β) : Prop where
  other : ∀ (o : Overrides) (call : Call), call.part ≠ part → view (call.apply o) = view o
  same : ∀ (o o' : Overrides) (call : Call), o.fieldFilters.Ordered → o'.fieldFilters.Ordered →
    view o = view o' → view (call.apply o) = view (call.apply o')

theorem reads_template : Reads .template Overrides.template where
  other o call hpart := by
    cases call with
    | useTemplate entries => exact absurd rfl hpart
    | template field value => exact absurd rfl hpart
    | _ => rfl
  same o o' call _ _ hview := by
    cases call with
    | useTemplate entries => rfl
    | template field value => exact congrArg (·.insert field value) hview
    | _ => exact hview

theorem reads_pipeline : Reads .pipeline Overrides.pipeline where
  other o call hpart := by
    cases call with
    | pipeline reference => exact absurd rfl hpart
    | _ => rfl
  same o o' call _ _ hview := by
    cases call with
    | pipeline reference => exact congrArg (· ++ [reference]) hview
    | _ => exact hview

theorem reads_field (name : String) : Reads (.field name) (·.fieldFilters.get? name) where
  other o call hpart := by
    cases call with
    | fieldFilter field reference =>
      have hne : name ≠ field := fun h => hpart (congrArg Part.field h.symm)
      exact Sorted.get?_adjust_of_ne hne _ _
    | _ => rfl
  same o o' call ho ho' hview := by
    cases call with
    | fieldFilter field reference =>
      by_cases h : name = field
      · subst h
        show Sorted.get? (Sorted.adjust _ _ _) _ = Sorted.get? (Sorted.adjust _ _ _) _
        rw [ho.get?_adjust_self, ho'.get?_adjust_self, hview]
      · show Sorted.get? (Sorted.adjust _ _ _) _ = Sorted.get? (Sorted.adjust _ _ _) _
        rw [Sorted.get?_adjust_of_ne h, Sorted.get?_adjust_of_ne h, hview]
    | _ => exact hview

/-- Only the calls of its part count for what is read. -/
theorem Reads.after_filter {β : Type} {part : Part} {view : Overrides → β} (h : Reads part view)
    {o o' : Overrides} (ho : o.fieldFilters.Ordered) (ho' : o'.fieldFilters.Ordered)
    (hview : view o = view o') (calls : List Call) :
    view (o.after calls) = view (o'.after (calls.filter (·.part = part))) := by
  induction calls generalizing o o' with
  | nil => exact hview
  | cons call calls ih =>
    by_cases hpart : call.part = part
    · rw [List.filter_cons_of_pos (by simpa using hpart)]
      exact ih (ordered_apply ho call) (ordered_apply ho' call) (h.same o o' call ho ho' hview)
    · -- a call of another part is made on one side only
      rw [List.filter_cons_of_neg (by simpa using hpart)]
      exact ih (ordered_apply ho call) ho' ((h.other o call hpart).trans hview)

theorem ordered_after {o : Overrides} (h : o.fieldFilters.Ordered) (calls : List Call) :
    (o.after calls).fieldFilters.Ordered := by
  induction calls generalizing o with
  | nil => exact h
  | cons call calls ih => exact ih (ordered_apply h call)

/-- Calls of different parts may be mixed in any way. -/
theorem after_eq_of_parts {o : Overrides} (h : o.fieldFilters.Ordered) {calls calls' : List Call}
    (hparts : ∀ part, calls.filter (·.part = part) = calls'.filter (·.part = part)) :
    o.after calls = o.after calls' := by
  have hviews : ∀ {β : Type} {part : Part} {view : Overrides → β}, Reads part view →
      view (o.after calls) = view (o.after calls') := by
    intro β part view hreads
    rw [hreads.after_filter h h rfl calls, hreads.after_filter h h rfl calls', hparts part]
  have halike : Alike (o.after calls) (o.after calls') :=
    ⟨hviews reads_template, fun field => hviews (reads_field field), hviews reads_pipeline⟩
  exact halike.eq (ordered_after h calls) (ordered_after h calls')

/-- The fingerprint is the digest of a text that overrides have in common if and only if they say
the same. Calls that agree on the order within each part build overrides with one fingerprint. The
digest that empty overrides share is the one they would have by themselves. -/
theorem fingerprint_identifies :
    (∀ a b : Overrides, a.WellFormed → b.WellFormed →
      (a.canonical.write = b.canonical.write ↔ Alike a b)) ∧
    (∀ (o : Overrides) (calls calls' : List Call), o.fieldFilters.Ordered →
      (∀ part, calls.filter (·.part = part) = calls'.filter (·.part = part)) →
      (o.after calls).fingerprint = (o.after calls').fingerprint) ∧
    (∀ o : Overrides, o.isEmpty = true → emptyDigest = o.digest) ∧
    ∀ o : Overrides, o.fingerprint = Sha256.ofText o.canonical.write := by
  refine ⟨fun a b ha hb => canonical_write_eq_iff ha hb, fun o calls calls' ho hparts => ?_,
    fun o ho => ?_, fingerprint_eq_digest⟩
  · rw [after_eq_of_parts ho hparts]
  · rw [eq_empty_of_isEmpty ho, emptyDigest]

def lookalikes : List Json :=
  [.ofInt 1, .ofFloat (.ofNat 1), .string "1", .ofFloat (.zero false), .ofFloat (.zero true)]

def giving (value : Json) : Overrides := { template := [("n", value)] }

def mixedCalls : List Call :=
  [.fieldFilter "email" ⟨"lower", []⟩, .template "id" (.string "x"), .pipeline ⟨"trim", []⟩,
    .fieldFilter "name" ⟨"trim", []⟩, .fieldFilter "email" ⟨"limit", [.ofInt 5]⟩]

def groupedCalls : List Call :=
  [.template "id" (.string "x"), .fieldFilter "name" ⟨"trim", []⟩,
    .fieldFilter "email" ⟨"lower", []⟩, .fieldFilter "email" ⟨"limit", [.ofInt 5]⟩,
    .pipeline ⟨"trim", []⟩]

theorem fingerprint_identifies_lookalikes :
    lookalikes.Pairwise (fun v w => (giving v).canonical.write ≠ (giving w).canonical.write) ∧
      (after {} mixedCalls).fingerprint = (after {} groupedCalls).fingerprint ∧
      emptyDigest = digest {} := by
  obtain ⟨htexts, hcalls, hempty, -⟩ := fingerprint_identifies
  refine ⟨?_, hcalls {} mixedCalls groupedCalls .nil fun part => ?_, hempty {} rfl⟩
  · have hfinite : ∀ v ∈ lookalikes, (giving v).WellFormed := by
      intro v hv
      have hv' : v.Finite := by
        simp only [lookalikes, List.mem_cons, List.not_mem_nil, or_false] at hv
        rcases hv with rfl | rfl | rfl | rfl | rfl
        · exact .number trivial
        · exact .number (show Binary64.isFinite (.ofNat 1) = true by decide +kernel)
        · exact .string "1"
        · exact .number (show Binary64.isFinite (.zero false) = true by decide)
        · exact .number (show Binary64.isFinite (.zero true) = true by decide)
      exact ⟨.nil, by simpa [giving] using hv', by simp [giving], by simp [giving]⟩
    have hdiffer : lookalikes.Pairwise (· ≠ ·) := by
      have hsign : Binary64.zero false ≠ .zero true := by decide
      have hone : Binary64.ofNat 1 ≠ .zero false ∧ Binary64.ofNat 1 ≠ .zero true := by
        decide +kernel
      simp [lookalikes, Json.ofInt, Json.ofFloat, hsign, hone]
    refine hdiffer.imp_of_mem fun {v w} hv hw hne heq => ?_
    have halike := (htexts _ _ (hfinite v hv) (hfinite w hw)).1 heq
    exact hne (by simpa [giving] using halike.template)
  · cases part with
    | field name =>
      by_cases hemail : "email" = name
      · subst hemail
        rfl
      · by_cases hname : "name" = name
        · subst hname
          rfl
        · simp [mixedCalls, groupedCalls, Call.part, hemail, hname]
    | _ => rfl

end Reshape.Overrides

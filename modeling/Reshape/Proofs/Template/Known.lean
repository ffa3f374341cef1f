import Reshape.Proofs.Template.Sound
import Reshape.Template.Eval

namespace Reshape.Template

namespace Expr

def AllKnown (known : String → Bool) (e : Expr) : Prop := ∀ name ∈ e.filterNames, known name = true

def PartsKnown (known : String → Bool) (parts : List Expr) : Prop :=
  ∀ name ∈ partFilterNames parts, known name = true

variable {known : String → Bool}

theorem allKnown_literal (value : Json) : (literal value).AllKnown known := by
  simp [AllKnown, filterNames]

theorem allKnown_path (p : Path) : (path p).AllKnown known := by
  simp [AllKnown, filterNames]

theorem allKnown_filter {e : Expr} {name : String} {arguments : List Json} :
    (filter e name arguments).AllKnown known ↔ e.AllKnown known ∧ known name = true := by
  simp [AllKnown, filterNames, or_imp, forall_and]

theorem allKnown_fallback {e other : Expr} :
    (fallback e other).AllKnown known ↔ e.AllKnown known ∧ other.AllKnown known := by
  simp [AllKnown, filterNames, or_imp, forall_and]

theorem partsKnown_nil : PartsKnown known [] := by
  simp [PartsKnown, partFilterNames]

theorem partsKnown_cons {part : Expr} {parts : List Expr} :
    PartsKnown known (part :: parts) ↔ part.AllKnown known ∧ PartsKnown known parts := by
  simp [PartsKnown, AllKnown, partFilterNames, or_imp, forall_and]

end Expr

namespace Grammar

variable {known accepted : String → Bool} {inFallback : Bool} {s : List Char} {e : Expr}

theorem Primary.allKnown (h : Primary inFallback s e) : e.AllKnown accepted := by
  cases h with
  | quoted _ _ => exact Expr.allKnown_literal _
  | literal _ _ _ => exact Expr.allKnown_literal _
  | path _ _ _ => exact Expr.allKnown_path _

/-- Whatever is said of the known names other than that of the fall-back, it is said of every
filter. -/
theorem Filtered.allKnown (h : Filtered known inFallback s e)
    (ha : ∀ name, name ≠ "default" → known name = true → accepted name = true) :
    e.AllKnown accepted := by
  induction h with
  | primary h => exact h.allKnown
  | filter _ _ _ _ hdefault hknown _ ih =>
    exact Expr.allKnown_filter.2 ⟨ih, ha _ hdefault hknown⟩
  | fallback _ _ _ _ ih => exact Expr.allKnown_fallback.2 ⟨ih, Expr.allKnown_literal _⟩

theorem Chain.allKnown (h : Chain known inFallback s e)
    (ha : ∀ name, name ≠ "default" → known name = true → accepted name = true) :
    e.AllKnown accepted := by
  induction h with
  | last h => exact h.allKnown ha
  | fallback h _ _ _ ih => exact Expr.allKnown_fallback.2 ⟨h.allKnown ha, ih⟩

theorem partsKnown_textPart_append (text : List Char) {parts : List Expr} :
    Expr.PartsKnown known (textPart text ++ parts) ↔ Expr.PartsKnown known parts := by
  unfold textPart
  split
  · rfl
  · exact Expr.partsKnown_cons.trans (and_iff_right (Expr.allKnown_literal _))

theorem Parts.partsKnown {found : List Expr} (h : Parts known s found)
    (ha : ∀ name, name ≠ "default" → known name = true → accepted name = true) :
    Expr.PartsKnown accepted found := by
  induction h with
  | text _ =>
    rw [← List.append_nil (textPart _)]
    exact (partsKnown_textPart_append _).2 Expr.partsKnown_nil
  | block _ hblock _ ih =>
    obtain ⟨-, hchain, -⟩ := hblock
    exact (partsKnown_textPart_append _).2 (Expr.partsKnown_cons.2 ⟨hchain.allKnown ha, ih⟩)

theorem Derives.allKnown (h : Derives known s e)
    (ha : ∀ name, name ≠ "default" → known name = true → accepted name = true) :
    e.AllKnown accepted := by
  cases h with
  | @parts found h =>
    have hfound := h.partsKnown ha
    match found with
    | [] => exact Expr.allKnown_literal _
    | [part] => exact (Expr.partsKnown_cons.1 hfound).1
    | _ :: _ :: _ => exact hfound

end Grammar

theorem allKnown_of_readWith {registry : Filter.Registry} {text : String} {e : Expr}
    (h : readWith registry text = .ok e) : e.AllKnown registry.contains :=
  (Grammar.readKnown_eq_ok.1 h).allKnown fun _ _ hknown => hknown

/-- A filter refused a value of the field that is computed. -/
def Context.Refuses (ctx : Context) (error : Error) : Prop :=
  ∃ filter cause, error = .filterFailed ctx.field filter cause

variable {ctx : Context} {c : Container}

theorem Context.refuses_of_applyFilter {name : String} {arguments : List Json} {value : Json}
    {error : Error} (hknown : ctx.registry.contains name = true)
    (h : ctx.applyFilter name arguments value = .error error) : ctx.Refuses error := by
  obtain ⟨filter, hfilter⟩ := Option.isSome_iff_exists.1 hknown
  have hget : ctx.registry.get name = .ok filter := by
    unfold Filter.Registry.get
    rw [hfilter]
  unfold applyFilter at h
  rw [hget] at h
  obtain ⟨cause, -, rfl⟩ := Outcome.mapError_eq_error.1 h
  exact ⟨name, cause, rfl⟩

namespace Expr

mutual

theorem refuses_of_evaluate {e : Expr} {error : Error}
    (hknown : e.AllKnown ctx.registry.contains) (h : e.evaluate ctx c = .error error) :
    ctx.Refuses error := by
  -- only a filter can fail, and it is on the way down to it that the error came up
  match e with
  | .literal value => exact absurd h (by simp [evaluate])
  | .path p => exact absurd h (by simp [evaluate])
  | .concat parts =>
    unfold evaluate at h
    exact refuses_of_renderParts hknown (Outcome.map_eq_error.1 h)
  | .filter inner name arguments =>
    obtain ⟨hinner, hname⟩ := allKnown_filter.1 hknown
    unfold evaluate at h
    split at h
    · exact Context.refuses_of_applyFilter hname (Outcome.map_eq_error.1 h)
    · exact absurd h (by simp)
    · next failed hfailed =>
      obtain rfl := Except.error.inj h
      exact refuses_of_evaluate hinner hfailed
  | .fallback inner other =>
    obtain ⟨hinner, hother⟩ := allKnown_fallback.1 hknown
    unfold evaluate at h
    split at h
    · split at h
      · exact refuses_of_evaluate hother h
      · exact absurd h (by simp)
    · next failed hfailed =>
      obtain rfl := Except.error.inj h
      exact refuses_of_evaluate hinner hfailed

theorem refuses_of_renderParts {parts : List Expr} {error : Error}
    (hknown : PartsKnown ctx.registry.contains parts)
    (h : renderParts ctx c parts = .error error) : ctx.Refuses error := by
  match parts with
  | [] => exact absurd h (by simp [renderParts])
  | part :: parts =>
    obtain ⟨hpart, hparts⟩ := partsKnown_cons.1 hknown
    unfold renderParts at h
    split at h
    · next failed hfailed =>
      obtain rfl := Except.error.inj h
      exact refuses_of_evaluate hpart hfailed
    · exact refuses_of_renderParts hparts (Outcome.map_eq_error.1 h)

end

end Expr

end Reshape.Template

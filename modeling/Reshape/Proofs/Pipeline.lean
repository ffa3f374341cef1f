import Reshape.Proofs.Filter.Reference
import Reshape.Proofs.Plan.Failure

namespace Reshape

namespace Template

open Reshape.Filter (Reference)

def Expr.under (e : Expr) (references : List Reference) : Expr :=
  references.foldl (fun e r => .filter e r.name r.arguments) e

def barred (s : List Char) (texts : List String) : List Char :=
  s ++ texts.flatMap fun text => [' ', '|', ' '] ++ text.toList

theorem barred_cons (s : List Char) (text : String) (texts : List String) :
    barred s (text :: texts) = barred (s ++ ([' ', '|', ' '] ++ text.toList)) texts := by
  simp [barred]

namespace Grammar

variable {known : String → Bool} {inFallback : Bool}

/-- Behind what is derived, one reference more is one filter more. The blanks that end a reference
stand before the next bar. -/
theorem Filtered.barred {s b : List Char} {e : Expr} (h : Filtered known inFallback s e)
    (hb : Blank b) {texts : List String} {references : List Reference}
    (hread : List.Forall₂ (fun text r => Reference.parse text = .ok r) texts references)
    (hdefault : ∀ r ∈ references, r.name ≠ "default")
    (hknown : ∀ r ∈ references, known r.name = true) : ∃ s' b',
      Template.barred (s ++ b) texts = s' ++ b' ∧ Blank b' ∧
        Filtered known inFallback s' (e.under references) := by
  induction hread generalizing s b e with
  | nil => exact ⟨s, b, by simp [Template.barred], hb, h⟩
  | @cons text r texts references hr _ ih =>
    obtain ⟨b₁, name, args, b₂, htext, hb₁, hb₂, hname, hrname, hargs⟩ := Reference.parse_sound hr
    have hnot := hdefault r List.mem_cons_self
    have hthere := hknown r List.mem_cons_self
    rw [hrname] at hnot hthere
    have hstep := h.filter (hb.append blank_space) (blank_space.append hb₁) hname hnot hthere hargs
    rw [← hrname] at hstep
    obtain ⟨s', b', hall, hb', hfiltered⟩ := ih hstep hb₂
      (fun r hr => hdefault r (List.mem_cons_of_mem _ hr))
      (fun r hr => hknown r (List.mem_cons_of_mem _ hr))
    refine ⟨s', b', ?_, hb', hfiltered⟩
    rw [barred_cons, ← hall, htext]
    simp

theorem block_barred {word : List Char} {p : Path} (hp : Path.parse word = .ok p)
    (hword : Word word) {texts : List String} {references : List Reference}
    (hread : List.Forall₂ (fun text r => Reference.parse text = .ok r) texts references)
    (hdefault : ∀ r ∈ references, r.name ≠ "default")
    (hknown : ∀ r ∈ references, known r.name = true) : ∃ inside,
      Expr.block (Template.barred word texts) = '{' :: '{' :: inside ∧
        Block known inside ((Expr.path p).under references) := by
  have hhead : Filtered known false word (.path p) :=
    .primary (.path (by simp) hword (Path.parse_eq_ok.1 hp))
  obtain ⟨s, b, hall, hb, hfiltered⟩ := hhead.barred blank_nil hread hdefault hknown
  rw [List.append_nil] at hall
  refine ⟨_, ?_, .chain blank_space (.last hfiltered) (hb.append blank_space)⟩
  simp [Expr.block, hall]

end Grammar

/-- Looking filters up one by one while a tree is evaluated comes to the same as running the list
of those that were bound. -/
theorem Expr.evaluate_under (ctx : Context) (c : Container) {bounds : List Filter.Bound}
    (h : ∀ b ∈ bounds, ctx.registry.get b.reference.name = .ok b.run) (e : Expr) :
    (e.under (bounds.map Filter.Bound.reference)).evaluate ctx c = match e.evaluate ctx c with
      | .ok (some value) => (Pipeline.run ctx.field bounds value).map some
      | .ok none => .ok none
      | .error error => .error error := by
  induction bounds generalizing e with
  | nil =>
    simp only [List.map_nil, under, List.foldl_nil]
    cases e.evaluate ctx c with
    | error error => rfl
    | ok value => cases value <;> rfl
  | cons b bounds ih =>
    have hget := h b List.mem_cons_self
    -- the first filter joins the expression that the others are on
    have hstep := ih (fun b hb => h b (List.mem_cons_of_mem _ hb))
      (.filter e b.reference.name b.reference.arguments)
    rw [List.map_cons, under, List.foldl_cons]
    refine hstep.trans ?_
    rw [evaluate]
    cases e.evaluate ctx c with
    | error error => rfl
    | ok found =>
      cases found with
      | none => rfl
      | some value =>
        simp only [Context.applyFilter, hget, Pipeline.run, Filter.Bound.apply]
        cases b.run value b.reference.arguments with
        | error cause => rfl
        | ok changed => rfl

end Template

namespace Pipeline

open Template

/-- Behind a word that is a path, texts of references are read as filters in their order, and
where the path leads to a value the block comes to what the bound filters make of it: the same
value, or the same refusal of the same filter. -/
theorem block_eq_run {word : List Char} {p : Path} (hp : Path.parse word = .ok p)
    (hchars : ∀ c ∈ word, isWordChar c = true) (hquote : ∀ c ∈ word.head?, isQuote c = false)
    {texts : List String} {references : List Filter.Reference}
    (hread : texts.mapM Filter.Reference.parse = .ok references)
    (hdefault : ∀ r ∈ references, r.name ≠ "default") :
    read (String.ofList (Expr.block (barred word texts))) =
        .ok ((Expr.path p).under references) ∧
      ∀ registry : Filter.Registry, (∀ r ∈ references, registry.contains r.name = true) →
        readWith registry (String.ofList (Expr.block (barred word texts))) =
            .ok ((Expr.path p).under references) ∧
          ∃ bounds, registry.bindAll references = .ok bounds ∧
            ∀ field nullFallsBack c value, p.resolve c = some value →
              ((Expr.path p).under references).evaluate ⟨field, registry, nullFallsBack⟩ c =
                (run field bounds value).map some := by
  have hword : Grammar.Word word := .of_path hp hchars hquote
  -- with and without a registry the same grammar derives the block
  have hknown : ∀ known : String → Bool, (∀ r ∈ references, known r.name = true) →
      readKnown known (String.ofList (Expr.block (barred word texts))) =
        .ok ((Expr.path p).under references) := by
    intro known hknown
    obtain ⟨inside, htext, hblock⟩ :=
      Grammar.block_barred hp hword (Outcome.mapM_eq_ok.1 hread) hdefault hknown
    rw [Grammar.readKnown_eq_ok, String.toList_ofList, htext]
    exact hblock.derives
  refine ⟨hknown anyName fun _ _ => rfl, fun registry hthere => ⟨hknown _ hthere, ?_⟩⟩
  obtain ⟨bounds, hbounds⟩ : ∃ bounds, registry.bindAll references = .ok bounds := by
    rw [← Outcome.fault?_eq_none, Plan.fault?_bindAll, Plan.unknown?_eq_none.2 hthere]
    rfl
  obtain ⟨hreferences, hfilters⟩ := Plan.binds_of_bindAll hbounds
  refine ⟨bounds, hbounds, fun field nullFallsBack c value hvalue => ?_⟩
  have heval := Expr.evaluate_under ⟨field, registry, nullFallsBack⟩ c hfilters (.path p)
  rw [hreferences] at heval
  rw [heval, Expr.evaluate, hvalue]

def firstLetter : List Filter.Reference := [⟨"substr", [.ofInt 0, .ofInt 1]⟩, ⟨"upper", []⟩]

/-- Two built-in filters, the second with blanks around it. -/
theorem block_eq_run_letter : Path.parse ['b'] = .ok ⟨[.key "b"]⟩ ∧
    ["substr:0:1", " upper "].mapM Filter.Reference.parse = .ok firstLetter ∧
    (∀ r ∈ firstLetter, Filter.Registry.builtin.contains r.name = true) ∧
    read "{{ b | substr:0:1 |  upper  }}" = .ok ((Expr.path ⟨[.key "b"]⟩).under firstLetter) ∧
    ∃ bounds, Filter.Registry.builtin.bindAll firstLetter = .ok bounds ∧
      ∀ field nullFallsBack value, ((Expr.path ⟨[.key "b"]⟩).under firstLetter).evaluate
        ⟨field, .builtin, nullFallsBack⟩ (.ofMembers [("b", value)]) =
          (run field bounds value).map some := by
  have hp : Path.parse ['b'] = .ok ⟨[.key "b"]⟩ :=
    Path.parse_eq_ok.2 (.single (by decide) (by decide))
  have hchars : ∀ c ∈ ['b'], isWordChar c = true := List.all_eq_true.1 rfl
  have hquote : ∀ c ∈ ['b'].head?, isQuote c = false := by simp [isQuote]
  have hread : ["substr:0:1", " upper "].mapM Filter.Reference.parse = .ok firstLetter := by
    with_unfolding_all rfl
  have hdefault : ∀ r ∈ firstLetter, r.name ≠ "default" := by decide
  have hthere : ∀ r ∈ firstLetter, Filter.Registry.builtin.contains r.name = true := by decide
  obtain ⟨hplain, hbound⟩ := block_eq_run hp hchars hquote hread hdefault
  obtain ⟨-, bounds, hbounds, hrun⟩ := hbound .builtin hthere
  exact ⟨hp, hread, hthere, hplain, bounds, hbounds,
    fun field nullFallsBack value => hrun field nullFallsBack _ value rfl⟩

end Pipeline

end Reshape

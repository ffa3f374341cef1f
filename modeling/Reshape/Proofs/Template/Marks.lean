import Reshape.Proofs.Sorted
import Reshape.Proofs.Template.Readable

namespace Reshape.Template

/-- A registry with one filter under all the names. -/
def uniformRegistry (f : Json → Json) (names : List String) : Filter.Registry :=
  names.foldr (fun name registry => registry.insert name (Filter.plain f)) .empty

def uniform (f : Json → Json) (names : List String) : Context :=
  { field := "", registry := uniformRegistry f names }

theorem get_uniformRegistry (f : Json → Json) {names : List String} {name : String}
    (h : name ∈ names) : (uniformRegistry f names).get name = .ok (Filter.plain f) := by
  have hfound : (uniformRegistry f names).filters.get? name = some (Filter.plain f) := by
    induction names with
    | nil => exact absurd h (by simp)
    | cons other names ih =>
      by_cases hname : name = other
      · subst hname
        exact Sorted.get?_insert_self _ name _
      · have hmem : name ∈ names := (List.mem_cons.1 h).resolve_left hname
        exact (Sorted.get?_insert_of_ne hname _ _).trans (ih hmem)
  simp only [Filter.Registry.get, hfound]

namespace Expr

/-- The value of a tree whose filters all do the same. -/
def valueWith (f : Json → Json) (c : Container) : Expr → Option Json
  | .literal value => some value
  | .path p => p.resolve c
  | .concat _ => none
  | .filter inner _ _ => (valueWith f c inner).map f
  | .fallback inner other => (valueWith f c inner).or (valueWith f c other)

theorem evaluate_uniform {inFallback : Bool} {e : Expr} (h : Grammar.Readable inFallback e)
    (f : Json → Json) (c : Container) {names : List String}
    (hnames : ∀ name ∈ e.filterNames, name ∈ names) :
    e.evaluate (uniform f names) c = .ok (e.valueWith f c) := by
  induction h with
  | string => rfl
  | keyword => rfl
  | path => rfl
  | @filter inFallback e name values _ _ _ _ ih =>
    have hinner := ih fun n hn => hnames n (List.mem_append_left _ hn)
    have hname : name ∈ names := hnames name (by simp [filterNames])
    have hget : (uniform f names).registry.get name = .ok (Filter.plain f) :=
      get_uniformRegistry f hname
    simp only [evaluate, hinner, valueWith]
    cases e.valueWith f c with
    | none => rfl
    | some value =>
      simp only [Context.applyFilter, hget]
      rfl
  | @fallback inFallback e other _ _ ih iho =>
    have hinner := ih fun n hn => hnames n (List.mem_append_left _ hn)
    have hother := iho fun n hn => hnames n (List.mem_append_right _ hn)
    simp only [evaluate, hinner, hother, valueWith]
    -- null is a value like others, since the context does not let it fall back
    cases e.valueWith f c with
    | none => rfl
    | some value => cases value <;> rfl

def shown (value : Option Json) : List Char := (value.map Filter.rendered).getD []

def rendering (f : Json → Json) (c : Container) (parts : List Expr) : List Char :=
  parts.flatMap fun part => shown (part.valueWith f c)

theorem rendering_cons (f : Json → Json) (c : Container) (part : Expr) (parts : List Expr) :
    rendering f c (part :: parts) = shown (part.valueWith f c) ++ rendering f c parts :=
  List.flatMap_cons

theorem rendering_textPart (f : Json → Json) (c : Container) (text : List Char)
    (parts : List Expr) :
    rendering f c (textPart text ++ parts) = text ++ rendering f c parts := by
  unfold textPart
  split
  · next h => rw [List.isEmpty_iff.1 h]; rfl
  · rw [List.singleton_append, rendering_cons]
    simp [valueWith, shown, Filter.rendered]

theorem renderParts_uniform (f : Json → Json) (c : Container) {names : List String}
    {parts : List Expr} (h : ∀ part ∈ parts, Grammar.Readable false part)
    (hnames : ∀ part ∈ parts, ∀ name ∈ part.filterNames, name ∈ names) :
    renderParts (uniform f names) c parts = .ok (rendering f c parts) := by
  induction parts with
  | nil => rfl
  | cons part parts ih =>
    have hpart := evaluate_uniform (h part List.mem_cons_self) f c
      (hnames part List.mem_cons_self)
    have hrest := ih (fun p hp => h p (List.mem_cons_of_mem part hp))
      fun p hp => hnames p (List.mem_cons_of_mem part hp)
    rw [renderParts, hpart]
    simp only [hrest]
    rfl

/-- Whatever a template is put together of, the text of its value is the texts of its parts. -/
theorem evaluate_ofParts (f : Json → Json) (c : Container) {names : List String}
    {parts : List Expr} (h : ∀ part ∈ parts, Grammar.Readable false part)
    (hnames : ∀ part ∈ parts, ∀ name ∈ part.filterNames, name ∈ names) :
    ∃ value, (ofParts parts).evaluate (uniform f names) c = .ok value ∧
      shown value = rendering f c parts := by
  match parts with
  | [] => exact ⟨some (.string ""), rfl, rfl⟩
  | [part] =>
    refine ⟨_, evaluate_uniform (h part List.mem_cons_self) f c
      (hnames part List.mem_cons_self), ?_⟩
    simp [rendering]
  | first :: second :: others =>
    have hconcat : ofParts (first :: second :: others) = .concat (first :: second :: others) := rfl
    refine ⟨some (.string (String.ofList (rendering f c (first :: second :: others)))), ?_, ?_⟩
    · rw [hconcat, evaluate, renderParts_uniform f c h hnames]
      rfl
    · simp [shown, Filter.rendered]

theorem rendering_eq {parts others : List Expr} (f : Json → Json) (c : Container)
    (h : ∀ part ∈ parts, Grammar.Readable false part)
    (ho : ∀ part ∈ others, Grammar.Readable false part)
    (hsame : ∀ ctx, (ofParts others).evaluate ctx c = (ofParts parts).evaluate ctx c) :
    rendering f c others = rendering f c parts := by
  -- one registry that has the filters of both
  let names := (parts ++ others).flatMap filterNames
  have hnames : ∀ part ∈ parts ++ others, ∀ name ∈ part.filterNames, name ∈ names :=
    fun part hpart name hname => List.mem_flatMap.2 ⟨part, hpart, hname⟩
  obtain ⟨hleft, hright⟩ := List.forall_mem_append.1 hnames
  obtain ⟨value, hvalue, htext⟩ := evaluate_ofParts f c h hleft
  obtain ⟨value', hvalue', htext'⟩ := evaluate_ofParts f c ho hright
  rw [hsame, hvalue] at hvalue'
  obtain rfl := Except.ok.inj hvalue'
  exact htext'.symm.trans htext

def found (c : Container) : Expr → Option Json
  | .literal value => some value
  | .path p => p.resolve c
  | _ => none

theorem valueWith_of_leaf {e : Expr} (hfallback : ∀ inner other, e = .fallback inner other → False)
    (hfilter : ∀ inner name values, e = .filter inner name values → False) (f : Json → Json)
    (c : Container) : e.valueWith f c = e.found c := by
  cases e with
  | fallback inner other => exact absurd rfl (hfallback inner other)
  | filter inner name values => exact absurd rfl (hfilter inner name values)
  | _ => rfl

theorem valueWith_id (c : Container) (e : Expr) :
    e.valueWith id c = e.heads.findSome? (found c) := by
  fun_induction heads e with
  | case1 inner other ihi iho => rw [valueWith, ihi, iho, List.findSome?_append]
  | case2 inner name values ih => rw [valueWith, Option.map_id, id, ih]
  | case3 e hfallback hfilter =>
    rw [valueWith_of_leaf hfallback hfilter, List.findSome?_singleton]

/-- Without filters to lose, a regrouped tree has the same value. -/
theorem valueWith_id_regrouped (c : Container) (e : Expr) :
    e.regrouped.valueWith id c = e.valueWith id c := by
  rw [valueWith_id, valueWith_id, heads_regrouped]

def mark (value : Json) : Json := .string (String.ofList (Filter.rendered value ++ ['#']))

/-- How long the text of a marked value is, if there is a value. -/
def worth (c : Container) (e : Expr) : Option Nat :=
  (e.valueWith mark c).map fun value => (Filter.rendered value).length

theorem worth_filter (c : Container) (e : Expr) (name : String) (values : List Json) :
    worth c (.filter e name values) = (worth c e).map (· + 1) := by
  simp only [worth, valueWith, Option.map_map]
  congr 1
  funext value
  simp [mark, Filter.rendered]

theorem worth_fallback (c : Container) (e other : Expr) :
    worth c (.fallback e other) = (worth c e).or (worth c other) := by
  simp only [worth, valueWith]
  cases e.valueWith mark c with
  | none => rfl
  | some value => rfl

theorem worth_behind (c : Container) (e other : Expr) :
    worth c (e.behind other) = (worth c e).or (worth c other) := by
  fun_induction behind e other with
  | case1 first rest other ih => rw [worth_fallback, worth_fallback, ih, Option.or_assoc]
  | case2 e other => rw [worth_fallback]

/-- Both have no value, or the first is worth at most what the second is. -/
abbrev AtMost : Option Nat → Option Nat → Prop := Option.Rel (· ≤ ·)

theorem AtMost.refl (a : Option Nat) : AtMost a a := by
  cases a with
  | none => exact .none
  | some n => exact .some (Nat.le_refl n)

theorem AtMost.or {a b m n : Option Nat} (h : AtMost a m) (h' : AtMost b n) :
    AtMost (a.or b) (m.or n) := by
  cases h with
  | some h => exact .some h
  | none => exact h'

theorem AtMost.succ {a m : Option Nat} (h : AtMost a m) :
    AtMost (a.map (· + 1)) (m.map (· + 1)) := by
  cases h with
  | some h => exact .some (Nat.succ_le_succ h)
  | none => exact .none

theorem AtMost.trans {a b c : Option Nat} (h : AtMost a b) (h' : AtMost b c) : AtMost a c := by
  cases h with
  | some h =>
    cases h' with
    | some h' => exact .some (Nat.le_trans h h')
  | none => exact h'

theorem AtMost.getD {a b : Option Nat} (h : AtMost a b) : a.getD 0 ≤ b.getD 0 := by
  cases h with
  | some h => exact h
  | none => exact Nat.le_refl 0

theorem worth_filterLast (c : Container) (name : String) (values : List Json) (e : Expr) :
    AtMost (worth c (e.filterLast name values)) ((worth c e).map (· + 1)) := by
  fun_induction filterLast name values e with
  | case1 first rest ih =>
    rw [worth_fallback, worth_fallback]
    cases worth c first with
    | none => exact ih
    | some n => exact .some (Nat.le_succ n)
  | case2 e =>
    rw [worth_filter]
    exact .refl _

/-- Regrouping can only lose marks. -/
theorem worth_regrouped (c : Container) (e : Expr) :
    AtMost (worth c e.regrouped) (worth c e) := by
  fun_induction regrouped e with
  | case1 inner other ihi iho =>
    rw [worth_behind, worth_fallback]
    exact ihi.or iho
  | case2 inner name values ih =>
    rw [worth_filter]
    exact (worth_filterLast c name values _).trans ih.succ
  | case3 e => exact .refl _

theorem worth_eq_none {c : Container} {e : Expr} :
    worth c e = none ↔ ∀ head ∈ e.heads, head.found c = none := by
  fun_induction heads e with
  | case1 inner other ihi iho =>
    rw [worth_fallback, Option.or_eq_none_iff, ihi, iho]
    simp only [List.mem_append, or_imp, forall_and]
  | case2 inner name values ih => rw [worth_filter, Option.map_eq_none_iff, ih]
  | case3 e hfallback hfilter =>
    rw [worth, valueWith_of_leaf hfallback hfilter, Option.map_eq_none_iff,
      List.forall_mem_singleton]

/-- The head is the first with a value. -/
def Comes (c : Container) (before : List Expr) (head : Expr) : Prop :=
  (∀ h ∈ before, h.found c = none) ∧ head.found c ≠ none

/-- The tree and the regrouped tree have values, of which the second has fewer marks. -/
def Loses (c : Container) (e : Expr) : Prop :=
  ∃ m n, worth c e.regrouped = some m ∧ worth c e = some n ∧ m < n

theorem Loses.fallback_left {c : Container} {inner : Expr} (h : Loses c inner) (other : Expr) :
    Loses c (.fallback inner other) := by
  obtain ⟨m, n, hm, hn, hlt⟩ := h
  refine ⟨m, n, ?_, ?_, hlt⟩
  · rw [regrouped, worth_behind, hm, Option.some_or]
  · rw [worth_fallback, hn, Option.some_or]

theorem Loses.fallback_right {c : Container} {inner other : Expr}
    (hnone : ∀ head ∈ inner.heads, head.found c = none) (h : Loses c other) :
    Loses c (.fallback inner other) := by
  obtain ⟨m, n, hm, hn, hlt⟩ := h
  have hgrouped : worth c inner.regrouped = none :=
    worth_eq_none.2 (inner.heads_regrouped.symm ▸ hnone)
  refine ⟨m, n, ?_, ?_, hlt⟩
  · rw [regrouped, worth_behind, hgrouped, Option.none_or, hm]
  · rw [worth_fallback, worth_eq_none.2 hnone, Option.none_or, hn]

/-- A filter around the last alternative does not mark what comes before. -/
theorem worth_filterLast_of_comes {c : Container} {e head : Expr} {before after : List Expr}
    (hr : Ranked e) (hheads : e.heads = before ++ head :: after) (hafter : after ≠ [])
    (hc : Comes c before head) (name : String) (values : List Json) :
    worth c (e.filterLast name values) = worth c e := by
  -- along the alternatives: the filter is put on the last one, the head comes before that
  induction hr generalizing before with
  | flat hflat =>
    obtain ⟨single, hsingle⟩ := heads_of_isFlat hflat
    have hlength := congrArg List.length (hsingle.symm.trans hheads)
    have hpos := List.length_pos_iff.2 hafter
    simp only [List.length_append, List.length_cons, List.length_nil] at hlength
    omega
  | @fallback first rest hfirst _ ih =>
    obtain ⟨single, hsingle⟩ := heads_of_isFlat hfirst
    rw [heads, hsingle] at hheads
    rw [filterLast, worth_fallback, worth_fallback]
    cases before with
    | nil =>
      obtain ⟨rfl, -⟩ := List.cons.inj hheads
      have hvalue : worth c first ≠ none := fun hnone =>
        hc.2 (worth_eq_none.1 hnone single (by simp [hsingle]))
      obtain ⟨m, hm⟩ := Option.ne_none_iff_exists'.1 hvalue
      rw [hm, Option.some_or, Option.some_or]
    | cons other before =>
      obtain ⟨rfl, hrest⟩ := List.cons.inj hheads
      obtain ⟨hsilent, hbefore⟩ := List.forall_mem_cons.1 hc.1
      have hnone : worth c first = none := worth_eq_none.2 (by simpa [hsingle] using hsilent)
      rw [hnone, Option.none_or, Option.none_or]
      exact ih hrest ⟨hbefore, hc.2⟩

/-- A filter marks the value of every alternative, and the regrouped one only that of the last. -/
theorem Loses.filter {c : Container} {inner head : Expr} {before after : List Expr}
    (hheads : inner.heads = before ++ head :: after) (hafter : after ≠ [])
    (hc : Comes c before head) (name : String) (values : List Json) :
    Loses c (.filter inner name values) := by
  have hgrouped := inner.heads_regrouped.trans hheads
  have hsame := worth_filterLast_of_comes inner.ranked_regrouped hgrouped hafter hc name values
  have hvalue : worth c inner.regrouped ≠ none := fun hnone =>
    hc.2 (worth_eq_none.1 hnone head (by simp [hgrouped]))
  obtain ⟨m, hm⟩ := Option.ne_none_iff_exists'.1 hvalue
  have hall := worth_regrouped c inner
  rw [hm] at hall
  cases hn : worth c inner with
  | none =>
    rw [hn] at hall
    nomatch hall
  | some n =>
    rw [hn] at hall
    obtain ⟨hle⟩ : AtMost (some m) (some n) := hall
    refine ⟨m, n + 1, ?_, ?_, Nat.lt_succ_of_le hle⟩
    · rw [regrouped, hsame, hm]
    · rw [worth_filter, hn]
      rfl

/-- Where an alternative that is stripped of a filter comes first, a mark is lost. -/
theorem Stripped.loses {c : Container} {e head : Expr} {before : List Expr}
    (h : Stripped e before head) (hc : Comes c before head) : Loses c e := by
  induction h with
  | filter hheads hafter name values => exact .filter hheads hafter hc name values
  | left _ other ih => exact (ih hc).fallback_left other
  | right inner _ ih =>
    obtain ⟨hbefore, hhead⟩ := hc
    obtain ⟨hnone, hrest⟩ := List.forall_mem_append.1 hbefore
    exact .fallback_right hnone (ih ⟨hrest, hhead⟩)

end Expr

end Reshape.Template

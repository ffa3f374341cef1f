import Reshape.Proofs.Template.Alternatives

namespace Reshape.Template.Expr

def behind : Expr → Expr → Expr
  | .fallback first rest, other => .fallback first (behind rest other)
  | e, other => .fallback e other

def filterLast (name : String) (arguments : List Json) : Expr → Expr
  | .fallback first rest => .fallback first (filterLast name arguments rest)
  | e => .filter e name arguments

/-- The tree that the text of an expression has inside a block. -/
def regrouped : Expr → Expr
  | .fallback inner other => (regrouped inner).behind (regrouped other)
  | .filter inner name arguments => (regrouped inner).filterLast name arguments
  | e => e

def isFlat : Expr → Bool
  | .fallback _ _ => false
  | .filter inner _ _ => isFlat inner
  | _ => true

/-- Filters stand only on what has no fall-back. -/
def isDirect : Expr → Bool
  | .fallback inner other => isDirect inner && isDirect other
  | .filter inner _ _ => isFlat inner
  | _ => true

theorem isFlat_of_leaf {e : Expr} (hfallback : ∀ inner other, e = .fallback inner other → False)
    (hfilter : ∀ inner name arguments, e = .filter inner name arguments → False) :
    e.isFlat = true := by
  cases e with
  | fallback inner other => exact absurd rfl (hfallback inner other)
  | filter inner name arguments => exact absurd rfl (hfilter inner name arguments)
  | _ => rfl

/-- Flat alternatives, grouped to the right. -/
inductive Ranked : Expr → Prop where
  | flat {e : Expr} (h : e.isFlat = true) : Ranked e
  | fallback {first rest : Expr} (h : first.isFlat = true) (hrest : Ranked rest) :
      Ranked (.fallback first rest)

/-- What filters and fall-backs stand on, in order. -/
def heads : Expr → List Expr
  | .fallback inner other => heads inner ++ heads other
  | .filter inner _ _ => heads inner
  | e => [e]

/-- An alternative under a filter which the text gives to a later one, with those before it. -/
inductive Stripped : Expr → List Expr → Expr → Prop where
  | filter {inner head : Expr} {before after : List Expr}
      (hheads : inner.heads = before ++ head :: after) (hafter : after ≠ []) (name : String)
      (arguments : List Json) : Stripped (.filter inner name arguments) before head
  | left {inner head : Expr} {before : List Expr} (h : Stripped inner before head)
      (other : Expr) : Stripped (.fallback inner other) before head
  | right {other head : Expr} {before : List Expr} (inner : Expr)
      (h : Stripped other before head) :
      Stripped (.fallback inner other) (inner.heads ++ before) head

theorem behind_of_isFlat {e : Expr} (h : e.isFlat = true) (other : Expr) :
    e.behind other = .fallback e other := by
  cases e with
  | fallback => exact absurd h (by simp [isFlat])
  | _ => rfl

theorem filterLast_of_isFlat {e : Expr} (h : e.isFlat = true) (name : String)
    (arguments : List Json) : e.filterLast name arguments = .filter e name arguments := by
  cases e with
  | fallback => exact absurd h (by simp [isFlat])
  | _ => rfl

theorem Ranked.behind {e other : Expr} (h : Ranked e) (ho : Ranked other) :
    Ranked (e.behind other) := by
  induction h with
  | flat h => exact behind_of_isFlat h other ▸ .fallback h ho
  | fallback h _ ih => exact .fallback h ih

theorem Ranked.filterLast {e : Expr} (h : Ranked e) (name : String) (arguments : List Json) :
    Ranked (e.filterLast name arguments) := by
  induction h with
  | flat h => exact filterLast_of_isFlat h name arguments ▸ .flat h
  | fallback h _ ih => exact .fallback h ih

theorem ranked_regrouped (e : Expr) : Ranked e.regrouped := by
  fun_induction regrouped e with
  | case1 inner other ihi iho => exact ihi.behind iho
  | case2 inner name arguments ih => exact ih.filterLast name arguments
  | case3 e hfallback hfilter => exact .flat (isFlat_of_leaf hfallback hfilter)

theorem regrouped_of_isFlat {e : Expr} (h : e.isFlat = true) : e.regrouped = e := by
  fun_induction regrouped e with
  | case1 inner other ihi iho => exact absurd h (by simp [isFlat])
  | case2 inner name arguments ih =>
    have hflat : inner.isFlat = true := h
    rw [ih hflat, filterLast_of_isFlat hflat]
  | case3 e hfallback hfilter => rfl

/-- What groups as its text does comes back from its text as it is. -/
theorem Ranked.regrouped_eq {e : Expr} (h : Ranked e) : e.regrouped = e := by
  induction h with
  | flat h => exact regrouped_of_isFlat h
  | fallback h _ ih => rw [regrouped, regrouped_of_isFlat h, ih, behind_of_isFlat h]

theorem heads_ne_nil (e : Expr) : e.heads ≠ [] := by
  fun_induction heads e with
  | case1 inner other ihi _ => exact List.append_ne_nil_of_left_ne_nil ihi _
  | case2 inner name arguments ih => exact ih
  | case3 e => exact List.cons_ne_nil e []

theorem heads_of_isFlat {e : Expr} (h : e.isFlat = true) : ∃ head, e.heads = [head] := by
  fun_induction heads e with
  | case1 inner other => exact absurd h (by simp [isFlat])
  | case2 inner name arguments ih => exact ih h
  | case3 e => exact ⟨e, rfl⟩

theorem heads_behind (e other : Expr) : (e.behind other).heads = e.heads ++ other.heads := by
  fun_induction behind e other with
  | case1 first rest other ih => simp [heads, ih]
  | case2 e other => rfl

theorem heads_filterLast (name : String) (arguments : List Json) (e : Expr) :
    (e.filterLast name arguments).heads = e.heads := by
  fun_induction filterLast name arguments e with
  | case1 first rest ih => simp [heads, ih]
  | case2 e => rfl

theorem heads_regrouped (e : Expr) : e.regrouped.heads = e.heads := by
  fun_induction regrouped e with
  | case1 inner other ihi iho => rw [heads_behind, ihi, iho, heads]
  | case2 inner name arguments ih => rw [heads_filterLast, ih, heads]
  | case3 e => rfl

theorem chars_behind (e other : Expr) :
    (e.behind other).chars = e.chars ++ ([' ', '?', '?', ' '] ++ other.chars) := by
  fun_induction behind e other with
  | case1 first rest other ih => simp [chars, ih]
  | case2 e other => simp [chars]

theorem chars_filterLast (name : String) (arguments : List Json) (e : Expr) :
    (e.filterLast name arguments).chars = (Expr.filter e name arguments).chars := by
  fun_induction filterLast name arguments e with
  | case1 first rest ih => simp [chars, ih]
  | case2 e => rfl

theorem chars_regrouped (e : Expr) : e.regrouped.chars = e.chars := by
  fun_induction regrouped e with
  | case1 inner other ihi iho => simp [chars_behind, ihi, iho, chars]
  | case2 inner name arguments ih => simp [chars_filterLast, ih, chars]
  | case3 e => rfl

variable (ctx : Context) (c : Container)

/-- Whether alternatives group to the left or to the right makes no difference. -/
theorem evaluate_behind (e other : Expr) :
    (e.behind other).evaluate ctx c = (Expr.fallback e other).evaluate ctx c := by
  fun_induction behind e other with
  | case1 first rest other ih => simp only [evaluate_fallback, ih, Context.orElse_assoc]
  | case2 e other => rfl

theorem evaluate_regrouped {e : Expr} (h : e.isDirect = true) :
    e.regrouped.evaluate ctx c = e.evaluate ctx c := by
  fun_induction regrouped e with
  | case1 inner other ihi iho =>
    simp only [isDirect, Bool.and_eq_true] at h
    simp only [evaluate_behind, evaluate, ihi h.1, iho h.2]
  | case2 inner name arguments ih =>
    have hflat : inner.isFlat = true := h
    rw [regrouped_of_isFlat hflat, filterLast_of_isFlat hflat]
  | case3 e => rfl

end Reshape.Template.Expr

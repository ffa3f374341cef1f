import Reshape.Filter.Builtin
import Reshape.Template.Checked
import Reshape.Template.Eval

namespace Reshape.Template

variable {ctx : Context} {c : Container}

namespace Context

/-- What a fall-back comes to, by the outcomes of its two sides. -/
def orElse (ctx : Context) (first second : Except Error (Option Json)) :
    Except Error (Option Json) :=
  match first with
  | .ok value => if ctx.needsFallback value then second else .ok value
  | .error error => .error error

/-- Neither an error nor a value to use. -/
def Unusable (ctx : Context) (outcome : Except Error (Option Json)) : Prop :=
  outcome = .ok none ∨ ctx.nullFallsBack = true ∧ outcome = .ok (some .null)

variable {first second : Except Error (Option Json)}

theorem needsFallback_iff {value : Option Json} :
    ctx.needsFallback value = true ↔ ctx.Unusable (.ok value) := by
  unfold needsFallback Unusable
  split
  · simp
  · simp
  · next hnull => simpa using fun _ => hnull

theorem orElse_of_unusable (h : ctx.Unusable first) : ctx.orElse first second = second := by
  cases first with
  | error error => exact absurd h (by simp [Unusable])
  | ok value => exact if_pos (needsFallback_iff.2 h)

theorem orElse_of_usable (h : ¬ctx.Unusable first) : ctx.orElse first second = first := by
  cases first with
  | error error => rfl
  | ok value => exact if_neg (mt needsFallback_iff.1 h)

theorem orElse_assoc (first second third : Except Error (Option Json)) :
    ctx.orElse (ctx.orElse first second) third = ctx.orElse first (ctx.orElse second third) := by
  by_cases h : ctx.Unusable first
  · rw [orElse_of_unusable h, orElse_of_unusable h]
  · rw [orElse_of_usable h, orElse_of_usable h, orElse_of_usable h]

end Context

namespace Expr

theorem evaluate_fallback (inner other : Expr) : (Expr.fallback inner other).evaluate ctx c =
    ctx.orElse (inner.evaluate ctx c) (other.evaluate ctx c) := rfl

/-- Trees of fall-backs with the given alternatives from left to right, which may be trees of
fall-backs themselves. -/
inductive Bracketing : List Expr → Expr → Prop where
  | alternative (e : Expr) : Bracketing [e] e
  | fallback {es es' : List Expr} {inner other : Expr} (hinner : Bracketing es inner)
      (hother : Bracketing es' other) : Bracketing (es ++ es') (.fallback inner other)

theorem Bracketing.ne_nil {es : List Expr} {e : Expr} (h : Bracketing es e) : es ≠ [] := by
  cases h with
  | alternative e => exact List.cons_ne_nil e []
  | fallback hinner hother =>
    exact List.append_ne_nil_of_left_ne_nil hinner.ne_nil _

def tryInOrder (ctx : Context) (c : Container) : List Expr → Except Error (Option Json)
  | [] => .ok none
  | [e] => e.evaluate ctx c
  | e :: es => ctx.orElse (e.evaluate ctx c) (tryInOrder ctx c es)

theorem tryInOrder_cons {es : List Expr} (hes : es ≠ []) (e : Expr) :
    tryInOrder ctx c (e :: es) = ctx.orElse (e.evaluate ctx c) (tryInOrder ctx c es) := by
  cases es with
  | nil => exact absurd rfl hes
  | cons => rfl

theorem tryInOrder_append {es es' : List Expr} (hes : es ≠ []) (hes' : es' ≠ []) :
    tryInOrder ctx c (es ++ es') =
      ctx.orElse (tryInOrder ctx c es) (tryInOrder ctx c es') := by
  induction es with
  | nil => exact absurd rfl hes
  | cons e es ih =>
    have hrest : es ++ es' ≠ [] := List.append_ne_nil_of_right_ne_nil es hes'
    rw [List.cons_append, tryInOrder_cons hrest]
    by_cases hsome : es = []
    · subst hsome
      rfl
    · rw [ih hsome, tryInOrder_cons hsome, Context.orElse_assoc]

theorem Bracketing.evaluate_eq {es : List Expr} {e : Expr} (h : Bracketing es e) :
    e.evaluate ctx c = tryInOrder ctx c es := by
  induction h with
  | alternative e => rfl
  | fallback hinner hother ihi iho =>
    rw [evaluate_fallback, ihi, iho, tryInOrder_append hinner.ne_nil hother.ne_nil]

/-- The alternative that settles the outcome: nothing before it is of use, and it is, or it is the
last one. -/
structure Settles (ctx : Context) (c : Container) (before : List Expr) (e : Expr)
    (behind : List Expr) : Prop where
  before : ∀ other ∈ before, ctx.Unusable (other.evaluate ctx c)
  here : behind = [] ∨ ¬ctx.Unusable (e.evaluate ctx c)

theorem exists_settles {es : List Expr} (hes : es ≠ []) :
    ∃ before e behind, es = before ++ e :: behind ∧ Settles ctx c before e behind := by
  induction es with
  | nil => exact absurd rfl hes
  | cons e es ih =>
    by_cases hlast : es = []
    · exact ⟨[], e, es, rfl, by simp, .inl hlast⟩
    · by_cases hpass : ctx.Unusable (e.evaluate ctx c)
      · obtain ⟨before, found, behind, rfl, hsettles⟩ := ih hlast
        exact ⟨e :: before, found, behind, rfl,
          List.forall_mem_cons.2 ⟨hpass, hsettles.before⟩, hsettles.here⟩
      · exact ⟨[], e, es, rfl, by simp, .inr hpass⟩

theorem Settles.tryInOrder_eq {before behind : List Expr} {e : Expr}
    (h : Settles ctx c before e behind) :
    tryInOrder ctx c (before ++ e :: behind) = e.evaluate ctx c := by
  obtain ⟨hbefore, hhere⟩ := h
  induction before with
  | nil =>
    by_cases hlast : behind = []
    · subst hlast
      rfl
    · rw [List.nil_append, tryInOrder_cons hlast,
        Context.orElse_of_usable (hhere.resolve_left hlast)]
  | cons other before ih =>
    obtain ⟨hother, hrest⟩ := List.forall_mem_cons.1 hbefore
    rw [List.cons_append, tryInOrder_cons (by simp), Context.orElse_of_unusable hother, ih hrest]

/-- In every tree of fall-backs one of the alternatives settles the outcome, which is its own. What
stands behind an alternative of use has no part in it: with anything else there, in any tree, the
outcome is the same. -/
theorem bracketing_irrelevant {es : List Expr} {e : Expr} (h : Bracketing es e) (ctx : Context)
    (c : Container) :
    (∃ before found behind, es = before ++ found :: behind ∧ Settles ctx c before found behind) ∧
      ∀ before found behind, es = before ++ found :: behind → Settles ctx c before found behind →
        e.evaluate ctx c = found.evaluate ctx c ∧
        (¬ctx.Unusable (found.evaluate ctx c) → ∀ behind' e',
          Bracketing (before ++ found :: behind') e' → e'.evaluate ctx c = e.evaluate ctx c) := by
  refine ⟨exists_settles h.ne_nil, ?_⟩
  rintro before found behind rfl hsettles
  have houtcome : e.evaluate ctx c = found.evaluate ctx c :=
    h.evaluate_eq.trans hsettles.tryInOrder_eq
  refine ⟨houtcome, fun husable behind' e' h' => ?_⟩
  have hsettles' : Settles ctx c before found behind' := ⟨hsettles.before, .inr husable⟩
  rw [houtcome, h'.evaluate_eq, hsettles'.tryInOrder_eq]

/-- A path that leads nowhere, one that leads to null, a text, and a filter that would fail. -/
def greetings : List Expr :=
  [.path ⟨[.key "nick"]⟩, .path ⟨[.key "name"]⟩, .literal (.string "you"),
    .filter (.literal (.string "all")) "int" []]

/-- The greetings as `??` groups them. -/
def toTheRight : Expr :=
  .fallback (.path ⟨[.key "nick"]⟩) (.fallback (.path ⟨[.key "name"]⟩)
    (.fallback (.literal (.string "you")) (.filter (.literal (.string "all")) "int" [])))

/-- The greetings as filters named `default` would group them. -/
def toTheLeft : Expr :=
  .fallback (.fallback (.fallback (.path ⟨[.key "nick"]⟩) (.path ⟨[.key "name"]⟩))
    (.literal (.string "you"))) (.filter (.literal (.string "all")) "int" [])

theorem bracketing_irrelevant_greetings :
    read "\x7b\x7b nick ?? name ?? 'you' ?? 'all' | int \x7d\x7d" = .ok toTheRight ∧
    read "\x7b\x7b nick | default:'you' | default:'all' \x7d\x7d" =
      .ok (.fallback (.fallback (.path ⟨[.key "nick"]⟩) (.literal (.string "you")))
        (.literal (.string "all"))) ∧
    Bracketing greetings toTheRight ∧ Bracketing greetings toTheLeft ∧
    ∀ e ∈ [toTheRight, toTheLeft], e.evaluate ⟨"greeting", .builtin, true⟩
      (.ofMembers [("name", .null)]) = .ok (some (.string "you")) := by
  have hright : Bracketing greetings toTheRight :=
    .fallback (.alternative _) (.fallback (.alternative _)
      (.fallback (.alternative _) (.alternative _)))
  have hleft : Bracketing greetings toTheLeft :=
    .fallback (.fallback (.fallback (.alternative _) (.alternative _)) (.alternative _))
      (.alternative _)
  refine ⟨by with_unfolding_all rfl, by with_unfolding_all rfl, hright, hleft, ?_⟩
  have hsettles : Settles ⟨"greeting", .builtin, true⟩ (.ofMembers [("name", .null)])
      [.path ⟨[.key "nick"]⟩, .path ⟨[.key "name"]⟩] (.literal (.string "you"))
      [.filter (.literal (.string "all")) "int" []] := by
    refine ⟨?_, .inr (by simp [Context.Unusable, evaluate])⟩
    rw [List.forall_mem_cons, List.forall_mem_singleton]
    exact ⟨.inl rfl, .inr ⟨rfl, rfl⟩⟩
  rw [List.forall_mem_cons, List.forall_mem_singleton]
  exact ⟨((bracketing_irrelevant hright _ _).2 _ _ _ rfl hsettles).1,
    ((bracketing_irrelevant hleft _ _).2 _ _ _ rfl hsettles).1⟩

end Expr

end Reshape.Template

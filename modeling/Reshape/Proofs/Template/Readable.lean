import Reshape.Proofs.Template.Literal
import Reshape.Proofs.Template.Regroup
import Reshape.Proofs.Template.Sound

namespace Reshape.Template.Grammar

/-- Values that a block can spell. -/
inductive Spellable : Json → Prop where
  | string (s : String) : Spellable (.string s)
  | keyword {v : Json} (h : Keyword v) : Spellable v

/-- Trees that a block can spell where its first head stands in a fall-back or not. -/
inductive Readable : Bool → Expr → Prop where
  | string (inFallback : Bool) (s : String) : Readable inFallback (.literal (.string s))
  | keyword {v : Json} (h : Keyword v) : Readable true (.literal v)
  | path {inFallback : Bool} {p : Path} (hf : inFallback = true → literal? p.chars = none)
      (hw : Word p.chars) (hp : Path.Spells p.chars p) : Readable inFallback (.path p)
  | filter {inFallback : Bool} {e : Expr} {name : String} {values : List Json}
      (h : Readable inFallback e) (hname : Name name.toList) (hdefault : name ≠ "default")
      (hvalues : ∀ v ∈ values, Spellable v) : Readable inFallback (.filter e name values)
  | fallback {inFallback : Bool} {e other : Expr} (h : Readable inFallback e)
      (hother : Readable true other) : Readable inFallback (.fallback e other)

theorem Argument.spellable {s : List Char} {v : Json} (h : Argument s v) : Spellable v := by
  cases h with
  | quoted _ _ => exact .string _
  | literal _ hv => exact .keyword (keyword_of_literal? hv)
  | word _ _ => exact .string _

theorem Arguments.spellable {s : List Char} {values : List Json} (h : Arguments s values) :
    ∀ v ∈ values, Spellable v := by
  induction h with
  | nil => simp
  | cons _ _ h _ ih =>
    intro v hv
    rcases List.mem_cons.1 hv with rfl | hv
    · exact h.spellable
    · exact ih v hv

theorem Spellable.readable {v : Json} (h : Spellable v) : Readable true (.literal v) := by
  cases h with
  | string s => exact .string _ s
  | keyword h => exact .keyword h

theorem Primary.readable {inFallback : Bool} {s : List Char} {e : Expr}
    (h : Primary inFallback s e) : Readable inFallback e := by
  cases h with
  | quoted _ _ => exact .string _ _
  | literal hf _ hv => exact hf ▸ .keyword (keyword_of_literal? hv)
  | path hf hw hp =>
    rw [← hp.chars] at hf hw hp
    exact .path hf hw hp

variable {known : String → Bool} {inFallback : Bool} {s : List Char} {e : Expr}

theorem Filtered.readable (h : Filtered known inFallback s e) : Readable inFallback e := by
  induction h with
  | primary h => exact h.readable
  | @filter s b b' name args e values _ _ _ hname hdefault _ hargs ih =>
    exact .filter ih (String.toList_ofList ▸ hname) hdefault hargs.spellable
  | fallback _ _ _ hargs ih =>
    exact .fallback ih (hargs.spellable _ List.mem_cons_self).readable

theorem Chain.readable (h : Chain known inFallback s e) : Readable inFallback e := by
  induction h with
  | last h => exact h.readable
  | fallback h _ _ _ ih => exact .fallback h.readable ih

theorem isQuote_single : isQuote '\'' = true := rfl

theorem quoted_escaped (s : List Char) :
    Quoted '\'' (s.flatMap (fun c => if c = '\'' || c = '\\' then ['\\', c] else [c]) ++ ['\''])
      s := by
  induction s with
  | nil => exact .close
  | cons c s ih =>
    rw [List.flatMap_cons, List.append_assoc]
    by_cases hc : c = '\'' || c = '\\'
    · rw [if_pos hc]
      exact .escaped c ih
    · rw [if_neg hc]
      simp only [Bool.or_eq_true, decide_eq_true_eq, not_or] at hc
      exact .plain hc.1 hc.2 ih

theorem literalChars_of_keyword {v : Json} (h : Keyword v) : literalChars v = v.chars := by
  cases h with
  | _ => rfl

theorem Spellable.argument {v : Json} (h : Spellable v) : Argument (literalChars v) v := by
  cases h with
  | string s =>
    have hquoted := Argument.quoted isQuote_single (quoted_escaped s.toList)
    rwa [String.ofList_toList] at hquoted
  | keyword h =>
    rw [literalChars_of_keyword h]
    exact .literal (word_chars h) (literalChars_of_keyword h ▸ literal?_chars h)

theorem arguments_argumentChars {values : List Json} (h : ∀ v ∈ values, Spellable v) :
    Arguments (argumentChars values) values := by
  induction values with
  | nil => exact .nil
  | cons v values ih =>
    have hv := (h v List.mem_cons_self).argument
    exact .cons blank_nil blank_nil hv (ih fun w hw => h w (List.mem_cons_of_mem v hw))

/-- A readable tree without fall-backs has the text of a head with filters. -/
theorem Readable.filtered (h : Readable inFallback e) (hflat : e.isFlat = true) :
    Filtered anyName inFallback e.chars e := by
  induction h with
  | string inFallback s =>
    have hquoted : Primary inFallback _ _ := .quoted isQuote_single (quoted_escaped s.toList)
    rw [String.ofList_toList] at hquoted
    exact .primary hquoted
  | @keyword v h =>
    have hword : Primary true v.chars (.literal v) :=
      .literal rfl (word_chars h) (literal?_chars h)
    rw [← literalChars_of_keyword h] at hword
    exact .primary hword
  | path hf hw hp => exact .primary (.path hf hw hp)
  | @filter inFallback e name values _ hname hdefault hvalues ih =>
    have hstep := Filtered.filter (ih hflat) blank_space blank_space hname
      (by rwa [String.ofList_toList]) rfl (arguments_argumentChars hvalues)
    rw [String.ofList_toList] at hstep
    simpa [Expr.chars] using hstep
  | fallback _ _ _ _ => exact absurd hflat (by simp [Expr.isFlat])

/-- A readable tree that groups as its text does is the tree of that text. -/
theorem Readable.chain_of_ranked (h : Readable inFallback e) (hr : e.Ranked) :
    Chain anyName inFallback e.chars e := by
  induction hr generalizing inFallback with
  | flat hflat => exact .last (h.filtered hflat)
  | fallback hflat _ ih =>
    cases h with
    | fallback h hother =>
      have hstep := (h.filtered hflat).chain (ih hother)
      simpa [Expr.chars] using hstep

theorem Readable.behind {other : Expr} (h : Readable inFallback e) (ho : Readable true other) :
    Readable inFallback (e.behind other) := by
  fun_induction Expr.behind e other generalizing inFallback with
  | case1 first rest other ih =>
    cases h with
    | fallback h hother => exact .fallback h (ih hother ho)
  | case2 e other => exact .fallback h ho

theorem Readable.filterLast {name : String} {values : List Json} (h : Readable inFallback e)
    (hname : Name name.toList) (hdefault : name ≠ "default")
    (hvalues : ∀ v ∈ values, Spellable v) : Readable inFallback (e.filterLast name values) := by
  fun_induction Expr.filterLast name values e generalizing inFallback with
  | case1 first rest ih =>
    cases h with
    | fallback h hother => exact .fallback h (ih hother)
  | case2 e => exact .filter h hname hdefault hvalues

theorem Readable.regrouped (h : Readable inFallback e) : Readable inFallback e.regrouped := by
  induction h with
  | filter _ hname hdefault hvalues ih => exact ih.filterLast hname hdefault hvalues
  | fallback _ _ ih iho => exact ih.behind iho
  | string inFallback s => exact .string inFallback s
  | keyword h => exact .keyword h
  | path hf hw hp => exact .path hf hw hp

/-- The text of a readable tree is a chain, whose tree is the regrouped one. -/
theorem Readable.chain (h : Readable inFallback e) :
    Chain anyName inFallback e.chars e.regrouped := by
  have hchain := h.regrouped.chain_of_ranked e.ranked_regrouped
  rwa [e.chars_regrouped] at hchain

end Reshape.Template.Grammar

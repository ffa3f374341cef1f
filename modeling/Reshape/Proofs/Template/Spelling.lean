import Reshape.Proofs.Template.Append

namespace Reshape.Template.Spelling

open Grammar (Free Name Readable Spellable Word)

/-- What a filter or a fall-back can stand on. Only in a fall-back is a keyword or a number the
head, and a path is no word of theirs there. -/
inductive Head (inFallback : Bool) : Expr → Prop where
  | string (s : String) : Head inFallback (.literal (.string s))
  | keyword {v : Json} (hf : inFallback = true) (h : Keyword v) : Head inFallback (.literal v)
  | path {w : List Char} {p : Path} (hp : Path.parse w = .ok p)
      (hw : ∀ c ∈ w, isWordChar c = true) (hq : ∀ c ∈ w.head?, isQuote c = false)
      (hf : inFallback = true → literal? w = none) : Head inFallback (.path p)

inductive Filtered (inFallback : Bool) : Expr → Prop where
  | head {e : Expr} (h : Head inFallback e) : Filtered inFallback e
  | filter {e : Expr} {name : String} {values : List Json} (h : Filtered inFallback e)
      (hname : Name name.toList) (hdefault : name ≠ "default")
      (hvalues : ∀ v ∈ values, Spellable v) : Filtered inFallback (.filter e name values)

/-- Alternatives without fall-backs of their own, the later ones in fall-backs. -/
inductive Chain : Bool → Expr → Prop where
  | last {inFallback : Bool} {e : Expr} (h : Filtered inFallback e) : Chain inFallback e
  | fallback {inFallback : Bool} {e other : Expr} (h : Filtered inFallback e)
      (hother : Chain true other) : Chain inFallback (.fallback e other)

/-- A part among others: a block that is not just a text, or a text that is there. -/
inductive Part : Expr → Prop where
  | block {e : Expr} (h : Chain false e) (ht : e.text? = none) : Part e
  | text {s : String} (hne : s ≠ "") (hs : Free s.toList) : Part (.literal (.string s))

/-- A text stands before a block only, and ends in no brace there. -/
def Apart (part next : Expr) : Prop :=
  ∀ text, part.text? = some text → next.text? = none ∧ text.getLast? ≠ some '{'

inductive Tree : Expr → Prop where
  | block {e : Expr} (h : Chain false e) (ht : e.text? = none) : Tree e
  | text {s : String} (hs : Free s.toList) : Tree (.literal (.string s))
  | parts {parts : List Expr} (many : 2 ≤ parts.length) (each : ∀ part ∈ parts, Part part)
      (apart : parts.IsChain Apart) : Tree (.concat parts)

variable {inFallback : Bool} {e : Expr}

theorem Head.readable (h : Head inFallback e) : Readable inFallback e := by
  cases h with
  | string s => exact .string inFallback s
  | keyword hf h => exact hf ▸ .keyword h
  | @path w p hp hw hq hf =>
    have hspells := Path.parse_eq_ok.1 hp
    have hchars : p.chars = w := hspells.chars
    exact .path (hchars ▸ hf) (hchars ▸ .of_path hp hw hq) (hchars.symm ▸ hspells)

theorem Head.isFlat (h : Head inFallback e) : e.isFlat = true := by
  cases h with
  | _ => rfl

theorem Filtered.readable (h : Filtered inFallback e) : Readable inFallback e := by
  induction h with
  | head h => exact h.readable
  | filter _ hname hdefault hvalues ih => exact .filter ih hname hdefault hvalues

theorem Filtered.isFlat (h : Filtered inFallback e) : e.isFlat = true := by
  induction h with
  | head h => exact h.isFlat
  | filter _ _ _ _ ih => exact ih

theorem Chain.readable (h : Chain inFallback e) : Readable inFallback e := by
  induction h with
  | last h => exact h.readable
  | fallback h _ ih => exact .fallback h.readable ih

theorem Chain.ranked (h : Chain inFallback e) : e.Ranked := by
  induction h with
  | last h => exact .flat h.isFlat
  | fallback h _ ih => exact .fallback h.isFlat ih

variable {part : Expr} {parts : List Expr}

theorem Part.readable (h : Part part) : Readable false part := by
  cases h with
  | block h _ => exact h.readable
  | text _ _ => exact .string false _

/-- A text in front of parts: either there is none, or it opens no block, also not together with
the block that it stands before. -/
def Leads (before : List Char) (parts : List Expr) : Prop :=
  before = [] ∨ Free before ∧
    ∀ part ∈ parts.head?, part.text? = none ∧ before.getLast? ≠ some '{'

theorem Leads.free (h : Leads before parts) : Free before := by
  rcases h with rfl | ⟨hfree, -⟩
  · exact Grammar.free_nil
  · exact hfree

theorem Leads.free_open (h : Leads before (part :: parts)) : Free (before ++ ['{']) := by
  rcases h with rfl | ⟨hfree, hnext⟩
  · exact Grammar.free_brace
  · exact Grammar.free_append.2 ⟨hfree, Grammar.free_brace, fun h => (hnext part rfl).2 h.1⟩

theorem Leads.eq_nil (h : Leads before (part :: parts)) {text : List Char}
    (ht : part.text? = some text) : before = [] := by
  rcases h with rfl | ⟨-, hnext⟩
  · rfl
  · exact absurd (ht.symm.trans (hnext part rfl).1) (by simp)

theorem leads_of_text {s : String} (hs : Free s.toList)
    (h : (Expr.literal (.string s) :: parts).IsChain Apart) : Leads s.toList parts := by
  refine .inr ⟨hs, fun next hnext => ?_⟩
  obtain ⟨behind, rfl⟩ := List.head?_eq_some_iff.1 hnext
  exact (List.isChain_cons_cons.1 h).1 _ rfl

/-- Between the blocks of such parts no text opens one, and what is read are the parts. -/
theorem runs_and_reread (h : ∀ part ∈ parts, Part part) (hapart : parts.IsChain Apart)
    {before : List Char} (hbefore : Leads before parts) :
    (∀ run ∈ Expr.runs before parts, Free run) ∧
      Expr.rereadParts before parts = textPart before ++ parts := by
  induction parts generalizing before with
  | nil => exact ⟨by simpa [Expr.runs] using hbefore.free, by simp [Expr.rereadParts]⟩
  | cons part parts ih =>
    have hrest := fun p hp => h p (List.mem_cons_of_mem part hp)
    have hchain := hapart.tail
    cases h part List.mem_cons_self with
    | block hblock ht =>
      obtain ⟨hfree, hreread⟩ := ih hrest hchain (.inl rfl)
      rw [Expr.runs_of_block ht, Expr.rereadParts_of_block ht, hreread,
        hblock.ranked.regrouped_eq]
      exact ⟨List.forall_mem_cons.2 ⟨hbefore.free_open, hfree⟩, rfl⟩
    | @text s hne hs =>
      have ht : (Expr.literal (.string s)).text? = some s.toList := rfl
      -- texts never stand side by side, so nothing is in front of this one
      obtain rfl := hbefore.eq_nil ht
      obtain ⟨hfree, hreread⟩ := ih hrest hchain (leads_of_text hs hapart)
      have htext : textPart s.toList = [.literal (.string s)] := by
        have hchars : s.toList ≠ [] := fun h => hne (String.toList_eq_nil_iff.1 h)
        simp [textPart, hchars]
      rw [Expr.runs_of_text ht, Expr.rereadParts_of_text ht, List.nil_append, hreread, htext]
      exact ⟨hfree, rfl⟩

theorem ofParts_of_many (h : 2 ≤ parts.length) : ofParts parts = .concat parts := by
  match parts with
  | [] => exact absurd h (by simp)
  | [_] => exact absurd h (by simp)
  | _ :: _ :: _ => rfl

/-- A tree that can be spelled reads back from its printed text, tree for tree. -/
theorem read_of_tree (h : Tree e) : read (String.ofList e.templateChars) = .ok e := by
  cases h with
  | block h ht =>
    have hparts := h.readable.parts_eq
    have hreadable : ∀ part ∈ e.parts, Readable false part := by
      rw [hparts]
      exact List.forall_mem_singleton.2 h.readable
    have hfree : ∀ run ∈ Expr.runs [] e.parts, Free run := hparts ▸ Expr.free_of_block ht
    rw [Expr.read_templateChars hreadable hfree, hparts, Expr.rereadParts_of_block ht,
      h.ranked.regrouped_eq]
    rfl
  | @text s hs =>
    have hreadable : ∀ part ∈ (Expr.literal (.string s)).parts, Readable false part :=
      List.forall_mem_singleton.2 (.string false s)
    have hfree : ∀ run ∈ Expr.runs [] (Expr.literal (.string s)).parts, Free run :=
      List.forall_mem_singleton.2 hs
    have hreread : Expr.rereadParts [] (Expr.literal (.string s)).parts = textPart s.toList := rfl
    rw [Expr.read_templateChars hreadable hfree, hreread, Expr.ofParts_textPart,
      String.ofList_toList]
  | @parts parts many each apart =>
    have hnil : Leads [] parts := .inl rfl
    obtain ⟨hfree, hreread⟩ := runs_and_reread each apart hnil
    have hread := Expr.read_templateChars (e := .concat parts)
      (fun part hpart => (each part hpart).readable) hfree
    rw [hread, show (Expr.concat parts).parts = parts from rfl, hreread,
      show textPart [] ++ parts = parts from rfl, ofParts_of_many many]

/-- A text, a block with a filter and a fall-back, and a brace behind it. -/
def greeting : Expr :=
  .concat [.literal (.string "a\x7d"),
    .fallback (.filter (.path ⟨[.key "b"]⟩) "substr" [.ofInt (-1), .string "it's"])
      (.literal (.ofInt 7)),
    .literal (.string "\x7b")]

theorem tree_greeting : Tree greeting := by
  have hfree : Free "a\x7d".toList := by simp [Free, List.infix_cons_iff]
  have hpath : Path.parse ['b'] = .ok ⟨[.key "b"]⟩ :=
    Path.parse_eq_ok.2 (.single (by decide) (by decide))
  have hword : ∀ c ∈ ['b'], isWordChar c = true := List.all_eq_true.1 rfl
  have hquote : ∀ c ∈ ['b'].head?, isQuote c = false := by
    intro c hc
    obtain rfl := Option.some.inj hc
    rfl
  have hname : Name "substr".toList := .of_all rfl rfl
  have hvalues : ∀ v ∈ [Json.ofInt (-1), .string "it's"], Spellable v :=
    List.forall_mem_cons.2 ⟨.keyword (.whole (by decide) (by decide)),
      List.forall_mem_singleton.2 (.string _)⟩
  have hfirst : Filtered false (.filter (.path ⟨[.key "b"]⟩) "substr" _) :=
    .filter (.head (.path hpath hword hquote (by decide))) hname (by decide) hvalues
  have hother : Chain true (.literal (.ofInt 7)) :=
    .last (.head (.keyword rfl (.whole (by decide) (by decide))))
  refine .parts (by decide) ?_ ?_
  · rw [List.forall_mem_cons, List.forall_mem_cons, List.forall_mem_singleton]
    exact ⟨.text (by decide) hfree, .block (.fallback hfirst hother) rfl,
      .text (by decide) Grammar.free_brace⟩
  · refine .cons_cons ?_ (.cons_cons ?_ (.singleton _))
    · intro text ht
      obtain rfl := Option.some.inj ht
      exact ⟨rfl, by decide⟩
    · intro text ht
      exact absurd ht (by simp [Expr.text?])

theorem read_of_tree_greeting : Tree greeting ∧
    greeting.templateChars = "a\x7d\x7b\x7b b | substr:-1:'it\\'s' ?? 7 \x7d\x7d\x7b".toList ∧
    read (String.ofList greeting.templateChars) = .ok greeting :=
  ⟨tree_greeting, by decide, read_of_tree tree_greeting⟩

end Reshape.Template.Spelling

import Reshape.Proofs.Template.Reprint

namespace Reshape.Template

namespace Grammar

/-- Two texts that open no block open one together only where they meet. -/
theorem free_append {s t : List Char} : Free (s ++ t) ↔
    Free s ∧ Free t ∧ ¬(s.getLast? = some '{' ∧ t.head? = some '{') := by
  constructor
  · intro h
    refine ⟨fun hs => h (hs.trans (List.prefix_append s t).isInfix),
      fun ht => h (ht.trans (List.suffix_append s t).isInfix), ?_⟩
    rintro ⟨hlast, hhead⟩
    obtain ⟨front, rfl⟩ := List.getLast?_eq_some_iff.1 hlast
    obtain ⟨behind, rfl⟩ := List.head?_eq_some_iff.1 hhead
    exact h ⟨front, behind, by simp⟩
  · rintro ⟨hs, ht, hmeet⟩
    induction s with
    | nil => exact ht
    | cons c s ih =>
      have htail : Free (s ++ t) := by
        refine ih hs.of_cons fun h => hmeet ⟨?_, h.2⟩
        rw [List.getLast?_cons, h.1, Option.getD_some]
      refine free_cons htail ?_
      rintro ⟨rfl, hhead⟩
      cases s with
      | nil => exact hmeet ⟨rfl, hhead⟩
      | cons d s =>
        obtain rfl : d = '{' := Option.some.inj hhead
        exact hs (List.prefix_append ['{', '{'] s).isInfix

end Grammar

namespace Expr

variable (ctx : Context) (c : Container)

/-- What an expression comes to inside other text. -/
def renders (e : Expr) : Except Error (List Char) := (e.evaluate ctx c).map shown

/-- One text behind another. Where the first is an error the second does not matter. -/
def joined (first second : Except Error (List Char)) : Except Error (List Char) := do
  let front ← first
  let back ← second
  return front ++ back

theorem joined_ok (front : List Char) (second : Except Error (List Char)) :
    joined (.ok front) second = second.map (front ++ ·) := by
  cases second with
  | error error => rfl
  | ok back => rfl

theorem renderParts_cons (part : Expr) (parts : List Expr) :
    renderParts ctx c (part :: parts) = joined (part.renders ctx c) (renderParts ctx c parts) := by
  rw [renderParts, renders]
  cases part.evaluate ctx c with
  | error error => rfl
  | ok value => exact (joined_ok _ _).symm

theorem joined_assoc (first second third : Except Error (List Char)) :
    joined (joined first second) third = joined first (joined second third) := by
  cases first with
  | error error => rfl
  | ok front =>
    cases second with
    | error error => rfl
    | ok middle =>
      simp only [joined_ok, Except.map]
      cases third with
      | error error => rfl
      | ok back => simp

theorem renderParts_append (parts others : List Expr) : renderParts ctx c (parts ++ others) =
    joined (renderParts ctx c parts) (renderParts ctx c others) := by
  induction parts with
  | nil =>
    rw [List.nil_append, renderParts, joined_ok]
    cases renderParts ctx c others with
    | error error => rfl
    | ok cs => rfl
  | cons part parts ih =>
    rw [List.cons_append, renderParts_cons, renderParts_cons, ih, joined_assoc]

/-- Whether texts that meet are one part or two makes no difference. -/
theorem renderParts_textPart_append (s t : List Char) (parts : List Expr) :
    renderParts ctx c (textPart (s ++ t) ++ parts) =
      renderParts ctx c (textPart s ++ (textPart t ++ parts)) := by
  rw [renderParts_textPart, renderParts_textPart, renderParts_textPart]
  cases renderParts ctx c parts with
  | error error => rfl
  | ok cs => simp [Except.map]

theorem renders_ofParts (parts : List Expr) :
    (ofParts parts).renders ctx c = renderParts ctx c parts := by
  match parts with
  | [] => rfl
  | [part] =>
    rw [ofParts, renderParts_cons, renderParts]
    cases part.renders ctx c with
    | error error => rfl
    | ok cs => simp [joined_ok, Except.map]
  | first :: second :: others =>
    have hconcat : ofParts (first :: second :: others) = .concat (first :: second :: others) := rfl
    rw [hconcat, renders, evaluate]
    cases renderParts ctx c (first :: second :: others) with
    | error error => rfl
    | ok cs => simp [Except.map, shown, Filter.rendered]

end Expr

namespace Grammar

variable {known : String → Bool}

/-- No block sees what is behind it: the parts of both texts are read as before, but for a text
at the end of the one that runs on in the other. -/
theorem Parts.append {s t : List Char} {found others : List Expr} (hs : Parts known s found)
    (ht : Parts known t others) (hmeet : ¬(s.getLast? = some '{' ∧ t.head? = some '{')) :
    ∃ all, Parts known (s ++ t) all ∧ ∀ ctx c,
      Expr.renderParts ctx c all = Expr.renderParts ctx c (found ++ others) := by
  induction hs with
  | @text s hfree =>
    cases ht with
    | @text t hfree' =>
      refine ⟨_, .text (free_append.2 ⟨hfree, hfree', hmeet⟩), fun ctx c => ?_⟩
      simpa using Expr.renderParts_textPart_append ctx c s t []
    | @block t inside rest e others hfree' hblock hrest =>
      -- both texts together stand in front of the block
      have hhead : (t ++ ['{']).head? = (t ++ '{' :: '{' :: (inside ++ rest)).head? := by
        rw [List.head?_append, List.head?_append]
        rfl
      have hopen : Free (s ++ t ++ ['{']) := by
        rw [List.append_assoc]
        exact free_append.2 ⟨hfree, hfree', by rwa [hhead]⟩
      have hparts := Parts.block hopen hblock hrest
      rw [List.append_assoc] at hparts
      exact ⟨_, hparts, fun ctx c => Expr.renderParts_textPart_append ctx c s t _⟩
  | @block s inside rest e found hfree hblock _ ih =>
    -- behind the block the texts meet where they met before
    have hrest : ¬(rest.getLast? = some '{' ∧ t.head? = some '{') := by
      rintro ⟨hlast, hhead⟩
      refine hmeet ⟨?_, hhead⟩
      rw [List.getLast?_append, List.getLast?_cons_cons, List.getLast?_cons,
        List.getLast?_append, hlast]
      rfl
    obtain ⟨all, hall, hrender⟩ := ih hrest
    have hparts := Parts.block hfree hblock hall
    refine ⟨textPart s ++ e :: all, by simpa using hparts, fun ctx c => ?_⟩
    rw [Expr.renderParts_textPart, Expr.renderParts_cons, hrender, ← Expr.renderParts_cons,
      ← Expr.renderParts_textPart]
    simp

end Grammar

/-- Unless one text ends in a brace and the other starts with one, two templates are one together.
It comes to the text of the first with the text of the second behind it; it fails as the first
does, or else as the second does. -/
theorem readKnown_append {known : String → Bool} {first second : String} {e e' : Expr}
    (h : readKnown known first = .ok e) (h' : readKnown known second = .ok e')
    (hmeet : ¬(first.toList.getLast? = some '{' ∧ second.toList.head? = some '{')) :
    ∃ both, readKnown known (first ++ second) = .ok both ∧ ∀ ctx c,
      both.renders ctx c = Expr.joined (e.renders ctx c) (e'.renders ctx c) := by
  obtain ⟨hparts⟩ := Grammar.readKnown_eq_ok.1 h
  obtain ⟨hparts'⟩ := Grammar.readKnown_eq_ok.1 h'
  obtain ⟨all, hall, hrender⟩ := hparts.append hparts' hmeet
  have hread : readKnown known (first ++ second) = .ok (ofParts all) := by
    rw [Grammar.readKnown_eq_ok, String.toList_append]
    exact .parts hall
  refine ⟨_, hread, fun ctx c => ?_⟩
  rw [Expr.renders_ofParts, Expr.renders_ofParts, Expr.renders_ofParts, hrender,
    Expr.renderParts_append]

/-- A text that ends in a brace, and one that goes on with a letter. -/
theorem readKnown_append_brace :
    readKnown anyName "\x7b\x7b a \x7d\x7d\x7b" =
        .ok (.concat [.path ⟨[.key "a"]⟩, .literal (.string "\x7b")]) ∧
      readKnown anyName "b{{ a }}" =
        .ok (.concat [.literal (.string "b"), .path ⟨[.key "a"]⟩]) ∧
      ¬("\x7b\x7b a \x7d\x7d\x7b".toList.getLast? = some '{' ∧ "b{{ a }}".toList.head? = some '{') ∧
      ∃ both, readKnown anyName ("\x7b\x7b a \x7d\x7d\x7b" ++ "b{{ a }}") = .ok both ∧ ∀ ctx c,
        both.renders ctx c = Expr.joined
          ((Expr.concat [.path ⟨[.key "a"]⟩, .literal (.string "\x7b")]).renders ctx c)
          ((Expr.concat [.literal (.string "b"), .path ⟨[.key "a"]⟩]).renders ctx c) := by
  have hword : Grammar.Word ['a'] := .of_all rfl rfl
  have hblock : Grammar.Block anyName _ (.path ⟨[.key "a"]⟩) :=
    (Grammar.Chain.last (.primary (.path (by decide) hword Expr.spells_a))).block
  have hfirst : Grammar.Parts anyName "\x7b\x7b a \x7d\x7d\x7b".toList _ :=
    .block (s := []) Grammar.free_brace hblock (.text (s := ['{']) Grammar.free_brace)
  have hfree : Grammar.Free (['b'] ++ ['{']) :=
    Grammar.free_append.2 ⟨by simp [Grammar.Free, List.infix_cons_iff], Grammar.free_brace,
      by decide⟩
  have hsecond : Grammar.Parts anyName "b{{ a }}".toList _ :=
    .block hfree hblock (.text Grammar.free_nil)
  have h := Grammar.readKnown_eq_ok.2 (.parts hfirst)
  have h' := Grammar.readKnown_eq_ok.2 (.parts hsecond)
  have hmeet : ¬("\x7b\x7b a \x7d\x7d\x7b".toList.getLast? = some '{' ∧
      "b{{ a }}".toList.head? = some '{') := by decide
  exact ⟨h, h', hmeet, readKnown_append h h' hmeet⟩

end Reshape.Template

import Reshape.Proofs.Template.Readable

namespace Reshape.Template

namespace Expr

def text? : Expr → Option (List Char)
  | .literal (.string s) => some s.toList
  | _ => none

def parts : Expr → List Expr
  | .concat parts => parts
  | e => [e]

/-- The texts between the blocks of printed parts, each with the first brace of the block behind
it. `before` is the text in front of the parts. -/
def runs (before : List Char) : List Expr → List (List Char)
  | [] => [before]
  | part :: parts => match part.text? with
    | some text => runs (before ++ text) parts
    | none => (before ++ ['{']) :: runs [] parts

/-- The parts that printed parts read as: texts run together and blocks regroup. -/
def rereadParts (before : List Char) : List Expr → List Expr
  | [] => textPart before
  | part :: parts => match part.text? with
    | some text => rereadParts (before ++ text) parts
    | none => textPart before ++ part.regrouped :: rereadParts [] parts

theorem eq_of_text? {e : Expr} {text : List Char} (h : e.text? = some text) :
    e = .literal (.string (String.ofList text)) := by
  unfold text? at h
  split at h
  · rw [← Option.some.inj h, String.ofList_toList]
  · exact absurd h (by simp)

variable {part : Expr} {text : List Char}

theorem runs_of_text (ht : part.text? = some text) (before : List Char) (parts : List Expr) :
    runs before (part :: parts) = runs (before ++ text) parts := by
  rw [runs, ht]

theorem runs_of_block (ht : part.text? = none) (before : List Char) (parts : List Expr) :
    runs before (part :: parts) = (before ++ ['{']) :: runs [] parts := by
  rw [runs, ht]

theorem rereadParts_of_text (ht : part.text? = some text) (before : List Char)
    (parts : List Expr) :
    rereadParts before (part :: parts) = rereadParts (before ++ text) parts := by
  rw [rereadParts, ht]

theorem rereadParts_of_block (ht : part.text? = none) (before : List Char)
    (parts : List Expr) : rereadParts before (part :: parts) =
      textPart before ++ part.regrouped :: rereadParts [] parts := by
  rw [rereadParts, ht]

theorem templateChars_eq (e : Expr) : e.templateChars = partChars e.parts := by
  cases e with
  | concat parts => simp [templateChars, Expr.parts, partChars]
  | _ => rfl

end Expr

namespace Grammar

theorem partChars_of_text {part : Expr} {text : List Char} (h : part.text? = some text)
    (parts : List Expr) :
    Expr.partChars (part :: parts) = text ++ Expr.partChars parts := by
  rw [Expr.eq_of_text? h, Expr.partChars, String.toList_ofList]

theorem partChars_of_block {part : Expr} {inFallback : Bool} (h : Readable inFallback part)
    (ht : part.text? = none) (parts : List Expr) : Expr.partChars (part :: parts) =
      '{' :: '{' :: (([' '] ++ (part.chars ++ ([' '] ++ ['}', '}']))) ++ Expr.partChars parts) := by
  rw [Expr.partChars]
  · simp [Expr.block]
  · rintro s rfl
    exact absurd ht (by simp [Expr.text?])
  · rintro inner rfl
    cases h

theorem Readable.block {part : Expr} (h : Readable false part) :
    Block anyName ([' '] ++ (part.chars ++ ([' '] ++ ['}', '}']))) part.regrouped :=
  h.chain.block

/-- Printed parts behind a text read back as the regrouped parts. -/
theorem parts_reread {before : List Char} {parts : List Expr}
    (h : ∀ part ∈ parts, Readable false part) (hfree : ∀ run ∈ Expr.runs before parts, Free run) :
    Parts anyName (before ++ Expr.partChars parts) (Expr.rereadParts before parts) := by
  induction parts generalizing before with
  | nil =>
    rw [Expr.partChars, List.append_nil]
    exact .text (hfree before List.mem_cons_self)
  | cons part parts ih =>
    have hpart := h part List.mem_cons_self
    have hrest := fun p hp => h p (List.mem_cons_of_mem part hp)
    cases ht : part.text? with
    | some text =>
      rw [Expr.runs_of_text ht] at hfree
      rw [partChars_of_text ht, ← List.append_assoc, Expr.rereadParts_of_text ht]
      exact ih hrest hfree
    | none =>
      rw [Expr.runs_of_block ht] at hfree
      have hbehind := @ih [] hrest fun run hr => hfree run (List.mem_cons_of_mem _ hr)
      rw [partChars_of_block hpart ht, Expr.rereadParts_of_block ht]
      exact .block (hfree _ List.mem_cons_self) hpart.block hbehind

theorem Readable.parts_eq {inFallback : Bool} {e : Expr} (h : Readable inFallback e) :
    e.parts = [e] := by
  cases h with
  | _ => rfl

theorem readable_textPart (text : List Char) :
    ∀ part ∈ textPart text, Readable false part := by
  unfold textPart
  split
  · simp
  · intro part hpart
    obtain rfl := List.mem_singleton.1 hpart
    exact .string false _

theorem Parts.readable {known : String → Bool} {s : List Char} {found : List Expr}
    (h : Parts known s found) : ∀ part ∈ found, Readable false part := by
  induction h with
  | text hs => exact readable_textPart _
  | block hs hblock _ ih =>
    intro part hpart
    rcases List.mem_append.1 hpart with hpart | hpart
    · exact readable_textPart _ part hpart
    · rcases List.mem_cons.1 hpart with rfl | hpart
      · obtain ⟨-, hchain, -⟩ := hblock
        exact hchain.readable
      · exact ih part hpart

/-- The parts of a template that was read are readable, and make up the template. -/
theorem Derives.parts_readable {known : String → Bool} {s : List Char} {e : Expr}
    (h : Derives known s e) :
    (∀ part ∈ e.parts, Readable false part) ∧ ofParts e.parts = e := by
  cases h with
  | @parts found h =>
    have hfound := h.readable
    match found with
    | [] => exact ⟨by simpa [ofParts, Expr.parts] using Readable.string false "", rfl⟩
    | [part] =>
      have hpart := hfound part List.mem_cons_self
      have hparts : (ofParts [part]).parts = [part] := hpart.parts_eq
      rw [hparts]
      exact ⟨hfound, rfl⟩
    | _ :: _ :: _ => exact ⟨hfound, rfl⟩

end Grammar

end Reshape.Template

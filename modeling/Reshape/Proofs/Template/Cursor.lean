import Mathlib.Logic.Function.Iterate
import Reshape.Proofs.Template.Place
import Reshape.Proofs.Text

namespace Reshape.Template

/-- What a reader has still to read, and the bytes that it has counted. -/
structure Cursor where
  rest : List Char
  position : Nat

namespace Cursor

variable {text place : List Char} {c : Cursor}

def start (text : List Char) : Cursor := ⟨text, 0⟩

def advance (c : Cursor) : Cursor :=
  match c.rest with
  | [] => c
  | char :: rest => ⟨rest, c.position + char.utf8Size⟩

/-- The counter tells where in the text the rest of it starts. -/
structure Counts (text : List Char) (c : Cursor) : Prop where
  suffix : c.rest <:+ text
  position : c.position = offsetOf text c.rest

theorem counts_start (text : List Char) : (start text).Counts text :=
  ⟨List.suffix_refl text, (Nat.sub_self _).symm⟩

theorem Counts.advance (h : c.Counts text) : c.advance.Counts text := by
  obtain ⟨rest, position⟩ := c
  cases rest with
  | nil => exact h
  | cons char rest =>
    obtain ⟨⟨before, rfl⟩, hposition⟩ := h
    refine ⟨(List.suffix_cons char rest).trans (List.suffix_append _ _), ?_⟩
    simp only [Cursor.advance, offsetOf, Text.byteSize_append, Text.byteSize] at hposition ⊢
    omega

theorem counts_iterate (text : List Char) (n : Nat) : (advance^[n] (start text)).Counts text := by
  induction n with
  | zero => exact counts_start text
  | succ n ih =>
    rw [Function.iterate_succ_apply']
    exact ih.advance

theorem rest_iterate (c : Cursor) (n : Nat) : (advance^[n] c).rest = c.rest.drop n := by
  induction n generalizing c with
  | zero => rfl
  | succ n ih =>
    obtain ⟨rest, position⟩ := c
    rw [Function.iterate_succ_apply, ih]
    cases rest <;> simp [advance]

/-- A reader comes to every place of its text, with the offset of the place on its counter. -/
theorem exists_iterate (h : place <:+ text) :
    ∃ n, advance^[n] (start text) = ⟨place, offsetOf text place⟩ := by
  obtain ⟨before, rfl⟩ := h
  have hrest : (advance^[before.length] (start (before ++ place))).rest = place := by
    rw [rest_iterate, start, List.drop_left]
  have hposition := (counts_iterate (before ++ place) before.length).position
  rw [hrest] at hposition
  exact ⟨before.length, congrArg₂ Cursor.mk hrest hposition⟩

end Cursor

/-- The offset that a refused template tells is on the counter when the reader is there. -/
theorem exists_iterate_of_parse {known : String → Bool} {text : List Char} {fault : Fault}
    (h : parse known text = .error (.fault fault)) :
    ∃ n, Cursor.advance^[n] (.start text) = ⟨fault.place, offsetOf text fault.place⟩ := by
  obtain ⟨before, hsplit, -⟩ := pointsInto_of_parse h
  exact Cursor.exists_iterate ⟨before, hsplit.symm⟩

end Reshape.Template

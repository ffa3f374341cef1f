import Reshape.Filter.Builtin
import Reshape.Problem
import Reshape.Proofs.Plan.Failure
import Reshape.Proofs.Template.Place

namespace Reshape

/-- A byte position in a text that is between two characters, with the characters before it and
those from it on. -/
structure PlaceIn (text : String) (position : Nat) (before place : List Char) : Prop where
  chars : text.toList = before ++ place
  bytes : position = (String.ofList before).utf8ByteSize
  inside : position ≤ text.utf8ByteSize
  boundary : String.Pos.Raw.IsValid text ⟨position⟩

/-- What is told of a malformed template, at a place where the message's cause stands. -/
def TemplateFault (text message : String) (position : Nat) : Prop :=
  ∃ (cause : Template.Cause) (before place : List Char), message = cause.message ∧
    PlaceIn text position before place ∧ cause.StandsAt before place

def PathFault (text message : String) (position : Nat) : Prop :=
  ∃ (fault : Path.Fault) (before place : List Char), message = fault.message ∧
    PlaceIn text position before place ∧ fault.StandsAt before place

theorem placeIn_offsetOf {text : String} {before place : List Char}
    (h : text.toList = before ++ place) :
    PlaceIn text (Template.offsetOf text.toList place) before place := by
  have hbytes : Template.offsetOf text.toList place = (String.ofList before).utf8ByteSize := by
    rw [Template.offsetOf, h, Text.byteSize_append, Nat.add_sub_cancel, Text.utf8ByteSize_ofList]
  have htext : text = String.ofList before ++ String.ofList place := by
    rw [← String.ofList_append, ← h, String.ofList_toList]
  refine ⟨h, hbytes, ?_, String.Pos.Raw.isValid_iff_exists_append.2 ⟨_, _, htext, ?_⟩⟩
  · rw [hbytes, htext, String.utf8ByteSize_append]
    exact Nat.le_add_right _ _
  · exact congrArg String.Pos.Raw.mk hbytes

theorem columnAt?_append (before place : List Char) :
    columnAt? (before ++ place) (Text.byteSize before) = some before.length := by
  induction before with
  | nil => simp [columnAt?, Text.byteSize]
  | cons c before ih =>
    have hpos := c.utf8Size_pos
    have hne : Text.byteSize (c :: before) ≠ 0 := by
      simp only [Text.byteSize]
      omega
    rw [List.cons_append, columnAt?, Text.byteSize, if_pos (Nat.le_add_right _ _),
      Nat.add_sub_cancel_left, ih]
    · rfl
    · exact hne

theorem PlaceIn.columnAt? {text : String} {position : Nat} {before place : List Char}
    (h : PlaceIn text position before place) :
    columnAt? text.toList position = some before.length := by
  rw [h.chars, h.bytes, Text.utf8ByteSize_ofList, columnAt?_append]

/-- The mark is as far to the right as there are characters before the position. -/
theorem PlaceIn.snippet {text : String} {position : Nat} {before place : List Char}
    (h : PlaceIn text position before place) (color : Bool) :
    snippet color text position = "    " ++ text ++ "\n    " ++
      Paint.boldRed.applyIf color (String.ofList (List.replicate before.length ' ' ++ ['^'])) := by
  simp only [Reshape.snippet, columnOf, h.columnAt?, Option.getD_some]

section Malformed

variable {text message expression : String} {position : Nat} {field : Option String}

theorem of_readKnown_eq_malformed {known : String → Bool}
    (h : Template.readKnown known text = .error (.malformed message position expression field)) :
    expression = text ∧ TemplateFault text message position := by
  obtain ⟨rejection, hparse, herror⟩ := Outcome.mapError_eq_error.1 h
  cases rejection with
  | unknownFilter name => exact absurd herror (by simp [Template.Rejection.error])
  | fault fault =>
    obtain ⟨before, hsplit, hstands⟩ := Template.pointsInto_of_parse hparse
    simp only [Template.Rejection.error, BuildError.malformed.injEq] at herror
    obtain ⟨rfl, rfl, rfl, -⟩ := herror
    exact ⟨String.ofList_toList,
      fault.cause, before, fault.place, rfl, placeIn_offsetOf hsplit, hstands⟩

theorem of_readPath_eq_malformed
    (h : Template.readPath text = .error (.malformed message position expression field)) :
    expression = text ∧ PathFault text message position := by
  obtain ⟨⟨fault, place⟩, hparse, herror⟩ := Outcome.mapError_eq_error.1 h
  obtain ⟨before, hsplit, hstands⟩ := Path.standsAt_of_parse hparse
  simp only [BuildError.malformed.injEq] at herror
  obtain ⟨rfl, rfl, rfl, -⟩ := herror
  exact ⟨rfl, fault, before, place, rfl, placeIn_offsetOf hsplit, hstands⟩

theorem of_forField_eq_malformed {error : BuildError} {name : String}
    (h : error.forField name = .malformed message position expression field) :
    ∃ field', error = .malformed message position expression field' := by
  cases error with
  | malformed message' position' expression' field' =>
    cases field' <;> simp_all [BuildError.forField]
  | unknownFilter filter field' => cases field' <;> simp [BuildError.forField] at h
  | invalidReference reference message' => simp [BuildError.forField] at h

end Malformed

namespace Plan

variable {registry : Filter.Registry} {d : Descriptor} {o : Overrides}

/-- A malformed text of a plan that cannot be built: a template in force or, without one, a path
that the type declares. -/
inductive MalformedText (d : Descriptor) (o : Overrides) (text message : String)
    (position : Nat) : Prop where
  | template (name : String) (mem : (name, Json.string text) ∈ effectiveTemplate d o)
      (fault : TemplateFault text message position)
  | path (own : Reshape.Field) (mem : own ∈ d.fields) (source : own.source = some text)
      (none : effectiveTemplate d o = []) (fault : PathFault text message position)

section Malformed

variable {message expression : String} {position : Nat} {field : Option String}

theorem eq_unknownFilter_of_bindAll {references : List Filter.Reference} {error : BuildError}
    (h : registry.bindAll references = .error error) :
    ∃ name, error = .unknownFilter name none := by
  have hfault := Outcome.fault?_eq_some.2 h
  rw [fault?_bindAll] at hfault
  obtain ⟨r, -, rfl⟩ := Option.map_eq_some_iff.1 hfault
  exact ⟨r.name, rfl⟩

theorem malformedText_of_declaredSource {own : Reshape.Field} (hown : own ∈ d.fields)
    (hnone : effectiveTemplate d o = [])
    (h : declaredSource d own = .error (.malformed message position expression field)) :
    MalformedText d o expression message position := by
  unfold declaredSource at h
  split at h
  · next path hsource =>
    obtain ⟨cause, hread, herror⟩ := Outcome.mapError_eq_error.1 (Outcome.map_eq_error.1 h)
    obtain ⟨field', rfl⟩ := of_forField_eq_malformed herror
    obtain ⟨rfl, hfault⟩ := of_readPath_eq_malformed hread
    exact .path own hown hsource hnone hfault
  · exact absurd h (by simp)

/-- The template values among the origins are the template's own. -/
theorem mem_of_mem_origins {template : Json.Members} {name : String} {value : Json}
    (h : (name, Origin.template value) ∈ origins d template) : (name, value) ∈ template := by
  rcases List.mem_append.1 h with hown | hextra
  · obtain ⟨own, -, heq⟩ := List.mem_map.1 hown
    unfold ownOrigin at heq
    cases hget : template.get? own.name with
    | none => simp [hget] at heq
    | some found =>
      rw [hget] at heq
      obtain ⟨rfl, hvalue⟩ := Prod.mk.inj heq
      cases hvalue
      exact Sorted.mem_of_get? hget
  · obtain ⟨entry, hmem, heq⟩ := List.mem_map.1 hextra
    cases heq
    exact (List.mem_filter.1 hmem).1

theorem malformedText_of_settleAlone {entry : String × Origin}
    (hentry : entry ∈ origins d (effectiveTemplate d o))
    (h : settleAlone registry entry = .error (.malformed message position expression field)) :
    MalformedText d o expression message position := by
  obtain ⟨name, origin⟩ := entry
  cases origin with
  | settled source => exact absurd h (by simp [settleAlone])
  | template value =>
    obtain ⟨cause, htree, herror⟩ := Outcome.mapError_eq_error.1 (Outcome.map_eq_error.1 h)
    obtain ⟨field', rfl⟩ := of_forField_eq_malformed herror
    cases value with
    | string text =>
      obtain ⟨rfl, hfault⟩ := of_readKnown_eq_malformed htree
      exact .template name (mem_of_mem_origins hentry) hfault
    | _ => exact absurd htree (by simp [tree])

theorem malformedText_of_sources
    (h : sources registry d (effectiveTemplate d o) =
      .error (.malformed message position expression field)) :
    MalformedText d o expression message position := by
  by_cases hnone : effectiveTemplate d o = []
  · rw [sources_of_eq_nil hnone] at h
    obtain ⟨own, hmem, hown⟩ := Outcome.exists_mem_of_mapM_eq_error h
    exact malformedText_of_declaredSource hmem hnone hown
  · rw [sources_of_ne_nil hnone] at h
    obtain ⟨entry, hmem, hentry⟩ := Outcome.exists_mem_of_mapM_eq_error h
    exact malformedText_of_settleAlone hmem hentry

/-- Filters are only ever unknown: what is malformed is a source. -/
theorem malformedText_of_build
    (h : build registry d o = .error (.malformed message position expression field)) :
    MalformedText d o expression message position := by
  rcases Outcome.bind_eq_error.1 h with hsources | ⟨found, -, hfields⟩
  · exact malformedText_of_sources hsources
  rcases Outcome.bind_eq_error.1 hfields with hfields | ⟨fields, -, hpipeline⟩
  · obtain ⟨entry, -, hentry⟩ := Outcome.exists_mem_of_mapM_eq_error hfields
    obtain ⟨cause, hbind, hcause⟩ := Outcome.mapError_eq_error.1 (Outcome.map_eq_error.1 hentry)
    obtain ⟨name, rfl⟩ := eq_unknownFilter_of_bindAll hbind
    exact absurd hcause (by simp [BuildError.forField])
  rcases Outcome.bind_eq_error.1 hpipeline with hpipeline | ⟨pipeline, -, hdone⟩
  · obtain ⟨name, hname⟩ := eq_unknownFilter_of_bindAll hpipeline
    exact absurd hname (by simp)
  · exact absurd hdone (by simp [pure, Except.pure])

theorem MalformedText.placeIn {text : String}
    (h : MalformedText d o text message position) :
    ∃ before place, PlaceIn text position before place := by
  cases h with
  | template name mem fault =>
    obtain ⟨cause, before, place, -, hplace, -⟩ := fault
    exact ⟨before, place, hplace⟩
  | path own mem source none fault =>
    obtain ⟨cause, before, place, -, hplace, -⟩ := fault
    exact ⟨before, place, hplace⟩

end Malformed

end Plan

namespace Problem

/-- A template that is refused as malformed, with or without a registry, is told with its text and
a position in it at which stands what the message names. A plan that cannot be built because a text
of it is malformed tells such a position of a template or of a declared path, and the report marks
the character there. -/
theorem malformed_points (registry : Filter.Registry) :
    (∀ (text message expression : String) (position : Nat) (field : Option String),
      Template.read text = .error (.malformed message position expression field) ∨
        Template.readWith registry text = .error (.malformed message position expression field) →
      expression = text ∧ TemplateFault text message position) ∧
    ∀ (d : Descriptor) (o : Overrides) (message expression : String) (position : Nat)
      (field : Option String),
      Plan.build registry d o = .error (.malformed message position expression field) →
      Plan.MalformedText d o expression message position ∧
      ∃ before place, PlaceIn expression position before place ∧
        columnAt? expression.toList position = some before.length ∧
        ∀ color, snippet color expression position = "    " ++ expression ++ "\n    " ++
          Paint.boldRed.applyIf color
            (String.ofList (List.replicate before.length ' ' ++ ['^'])) := by
  refine ⟨fun text message expression position field h => ?_,
    fun d o message expression position field h => ?_⟩
  · rcases h with h | h
    · exact of_readKnown_eq_malformed h
    · exact of_readKnown_eq_malformed h
  · have hmalformed := Plan.malformedText_of_build h
    obtain ⟨before, place, hplace⟩ := hmalformed.placeIn
    exact ⟨hmalformed, before, place, hplace, hplace.columnAt?, hplace.snippet⟩

/-- A type whose field is read from a path with an empty part. -/
def gapped : Descriptor :=
  { id := "gapped", fields := [{ name := "size", source := some "größe..cm" }] }

theorem malformed_points_gapped :
    (Template.read "é{{ a. }}" = .error (.malformed "Empty path segment" 7 "é{{ a. }}" none) ∧
      TemplateFault "é{{ a. }}" "Empty path segment" 7) ∧
    (Plan.build .builtin gapped {} =
        .error (.malformed "Empty path segment" 8 "größe..cm" (some "size")) ∧
      Plan.MalformedText gapped {} "größe..cm" "Empty path segment" 8 ∧
      snippet false "größe..cm" 8 = "    größe..cm\n          ^") := by
  have hread : Template.read "é{{ a. }}" =
      .error (.malformed "Empty path segment" 7 "é{{ a. }}" none) := by
    have hfault : Outcome.fault? (Template.read "é{{ a. }}") =
        some (.malformed "Empty path segment" 7 "é{{ a. }}" none) := by
      decide +kernel
    exact Outcome.fault?_eq_some.1 hfault
  have hbuild : Plan.build .builtin gapped {} =
      .error (.malformed "Empty path segment" 8 "größe..cm" (some "size")) := by
    have hfault : Outcome.fault? (Plan.build .builtin gapped {}) =
        some (.malformed "Empty path segment" 8 "größe..cm" (some "size")) := by
      decide +kernel
    exact Outcome.fault?_eq_some.1 hfault
  obtain ⟨htexts, hplans⟩ := malformed_points .builtin
  refine ⟨⟨hread, (htexts _ _ _ _ _ (.inl hread)).2⟩,
    hbuild, (hplans _ _ _ _ _ _ hbuild).1, by decide +kernel⟩

end Problem

end Reshape

import Reshape.Output
import Reshape.Proofs.Text

namespace Reshape

open Text (EndsVisible)

namespace Output

theorem trimmedLine_of_endsVisible {text : String} (h : EndsVisible text.toList) :
    trimmedLine text = text ++ "\n" := by
  unfold trimmedLine line
  rw [h.trimEnd_eq, String.ofList_toList]

/-- A text is printed as it is if and only if it is a line, and its line ends in no blank. -/
theorem trimmedLine_eq_self_iff {text : String} : trimmedLine text = text ↔
    ∃ cs, text.toList = cs ++ ['\n'] ∧ EndsVisible cs := by
  constructor
  · intro h
    refine ⟨Text.trimEnd text.toList, ?_, Text.endsVisible_trimEnd _⟩
    have hlist := congrArg String.toList h
    unfold trimmedLine line at hlist
    simpa using hlist.symm
  · rintro ⟨cs, htext, hcs⟩
    have hbreak : Text.trimEnd (cs ++ ['\n']) = Text.trimEnd cs := by
      have hblank : Text.isBlank '\n' = true := by decide
      simp [Text.trimEnd, Text.trimEndBy, hblank]
    have htrim : Text.trimEnd text.toList = cs := by rw [htext, hbreak, hcs.trimEnd_eq]
    have hline : text = String.ofList cs ++ "\n" := by
      apply String.toList_injective
      rw [htext]
      simp
    unfold trimmedLine line
    rw [htrim, ← hline]

/-- What records are mapped to: one object, or an array of them. -/
inductive Mapped : Json → Prop
  | one (members : Json.Members) : Mapped (.object members)
  | all (maps : List Json.Members) : Mapped (.array (maps.map .object))

namespace Mapped

variable {value : Json}

theorem endsVisible_chars (h : Mapped value) : EndsVisible value.chars := by
  cases h with
  | one members =>
    rw [Json.chars, ← List.cons_append]
    exact Text.endsVisible_concat (by decide) _
  | all maps =>
    rw [Json.chars, ← List.cons_append]
    exact Text.endsVisible_concat (by decide) _

theorem endsVisible_prettyChars (h : Mapped value) : EndsVisible (value.prettyChars 0) := by
  cases h with
  | one members =>
    cases members with
    | nil => exact Text.endsVisible_concat (by decide) ['\x7b']
    | cons member members =>
      rw [Json.prettyChars, ← List.cons_append]
      exact Text.endsVisible_concat (by decide) _
  | all maps =>
    cases maps with
    | nil => exact Text.endsVisible_concat (by decide) ['[']
    | cons members maps =>
      rw [List.map_cons, Json.prettyChars, ← List.cons_append]
      exact Text.endsVisible_concat (by decide) _

theorem endsVisible_lines (h : Mapped value) : EndsVisible (OutputFormat.lines value) := by
  cases h with
  | one members => exact (Mapped.one members).endsVisible_chars
  | all maps =>
    by_cases hmaps : maps = []
    · subst hmaps
      exact Text.endsVisible_nil
    · refine (Text.endsVisible_joinWith (by simpa using hmaps) fun part hpart => ?_).2
      obtain ⟨item, hitem, rfl⟩ := List.mem_map.1 hpart
      obtain ⟨members, -, rfl⟩ := List.mem_map.1 hitem
      exact ⟨by simp [Json.chars], (Mapped.one members).endsVisible_chars⟩

theorem endsVisible_render (h : Mapped value) {format : OutputFormat} (hf : format ≠ .yaml) :
    EndsVisible (format.render value).toList := by
  cases format with
  | human => simpa [OutputFormat.render, Json.writePretty] using h.endsVisible_prettyChars
  | json => simpa [OutputFormat.render, Json.write] using h.endsVisible_chars
  | jsonPretty => simpa [OutputFormat.render, Json.writePretty] using h.endsVisible_prettyChars
  | ndjson => simpa [OutputFormat.render] using h.endsVisible_lines
  | yaml => exact absurd rfl hf

end Mapped

theorem data_of_mapped {o : Output} (hf : o.format ≠ .yaml) {value : Json} (h : Mapped value) :
    o.data value = o.format.render value ++ "\n" :=
  trimmedLine_of_endsVisible (h.endsVisible_render hf)

end Output

end Reshape

import Reshape.Proofs.Template.Readable

namespace Reshape

/-- The numbers that a value can hold: whole ones of 64 bits, and finite floats. -/
def Json.Number.Fits : Json.Number → Prop
  | .whole n => minInt64 ≤ n ∧ n ≤ maxUInt64
  | .float f => f.isFinite = true

def Json.IsScalar (v : Json) : Prop := v.asArray? = none ∧ v.asObject? = none

namespace Template.Grammar

theorem Spellable.of_isScalar {v : Json} (h : v.IsScalar)
    (hfits : ∀ m, v = .number m → m.Fits) : Spellable v := by
  cases v with
  | null => exact .keyword .null
  | bool b => exact .keyword (.bool b)
  | string s => exact .string s
  | array items => exact absurd h.1 (by simp [Json.asArray?])
  | object members => exact absurd h.2 (by simp [Json.asObject?])
  | number m =>
    have hm := hfits m rfl
    cases m with
    | whole n => exact .keyword (.whole hm.1 hm.2)
    | float f => exact .keyword (.float hm)

/-- What equals a value that can be spelled is of its kind. -/
theorem Spellable.isScalar_of_agrees {v w : Json} (h : Spellable v) (hw : v.agrees w = true) :
    w.IsScalar := by
  have hv : v.IsScalar := by
    cases h with
    | string s => exact ⟨rfl, rfl⟩
    | keyword h => cases h <;> exact ⟨rfl, rfl⟩
  cases w with
  | array items => cases v <;> simp_all [Json.agrees, Json.IsScalar, Json.asArray?]
  | object members => cases v <;> simp_all [Json.agrees, Json.IsScalar, Json.asObject?]
  | _ => exact ⟨rfl, rfl⟩

theorem Spellable.agrees_self {v : Json} (h : Spellable v) : v.agrees v = true := by
  cases h with
  | string s => simp [Json.agrees]
  | keyword h => cases h <;> simp [Json.agrees, Json.Number.agrees, Json.ofInt, Json.ofFloat]

theorem isScalar_of_itemsAgree {values others : List Json} (h : ∀ v ∈ values, Spellable v)
    (ho : Json.itemsAgree values others = true) : ∀ w ∈ others, w.IsScalar := by
  induction values generalizing others with
  | nil =>
    cases others with
    | nil => simp
    | cons w others => exact absurd ho (by simp [Json.itemsAgree])
  | cons v values ih =>
    cases others with
    | nil => simp
    | cons w others =>
      obtain ⟨hv, hvalues⟩ := List.forall_mem_cons.1 h
      rw [Json.itemsAgree, Bool.and_eq_true] at ho
      exact List.forall_mem_cons.2 ⟨hv.isScalar_of_agrees ho.1, ih hvalues ho.2⟩

theorem itemsAgree_self {values : List Json} (h : ∀ v ∈ values, Spellable v) :
    Json.itemsAgree values values = true := by
  induction values with
  | nil => rfl
  | cons v values ih =>
    obtain ⟨hv, hvalues⟩ := List.forall_mem_cons.1 h
    rw [Json.itemsAgree, hv.agrees_self, ih hvalues]
    rfl

theorem Name.isNameChar {name : List Char} (h : Name name) :
    ∀ c ∈ name, Template.isNameChar c = true := by
  obtain ⟨hstart, hall⟩ := h
  exact List.forall_mem_cons.2 ⟨isNameChar_of_isNameStart hstart, hall⟩

theorem skipBlanks_of_blank {b : List Char} (hb : Blank b) : skipBlanks b = [] :=
  List.dropWhile_eq_nil_iff.2 hb

/-- Where only blanks are left, there is no character that could be a wrong one. -/
theorem ahead_of_blank (p : Char → Bool) {b : List Char} (hb : Blank b) : Ahead p b := by
  simp [Ahead, skipBlanks_of_blank hb]

end Template.Grammar

namespace Filter.Reference

open Template (argumentChars skipBlanks)
open Template.Grammar

variable {r : Reference}

/-- A reference is a name with arguments as they stand in a block, and blanks around them. -/
theorem parse_sound {text : String} {r : Reference} (h : parse text = .ok r) :
    ∃ b name args b', text.toList = b ++ (name ++ (args ++ b')) ∧ Blank b ∧ Blank b' ∧
      Name name ∧ r.name = String.ofList name ∧ Arguments args r.arguments := by
  have hread : read text.toList = .ok r := Outcome.mapError_eq_ok.1 h
  obtain ⟨b, hb, hsplit⟩ := exists_blank text.toList
  unfold read at hread
  split at hread
  · exact absurd hread (by simp)
  · next name afterName hfound =>
    obtain ⟨hname, hafter⟩ := name?_sound hfound
    split at hread
    · exact absurd hread (by simp)
    · next arguments rest harguments =>
      obtain ⟨args, b₁, rfl, hb₁, hargs⟩ := arguments_sound harguments
      obtain ⟨b₂, hb₂, hend⟩ := exists_blank rest
      split at hread
      · next hnil =>
        obtain rfl := Except.ok.inj hread
        rw [hnil, List.append_nil] at hend
        subst hend
        refine ⟨b, name, args, b₁ ++ rest, ?_, hb, hb₁.append hb₂, hname, rfl, hargs⟩
        rw [← hafter]
        exact hsplit
      · exact absurd hread (by simp)

theorem parse_complete {text : String} {b name args b' : List Char} {values : List Json}
    (htext : text.toList = b ++ (name ++ (args ++ b'))) (hb : Blank b) (hb' : Blank b')
    (hname : Name name) (hargs : Arguments args values) :
    parse text = .ok ⟨String.ofList name, values⟩ := by
  have hend := ahead_of_blank notColon hb'
  have hskip := skipBlanks_of_blank hb'
  have hstart : skipBlanks text.toList = name ++ (args ++ b') := by
    rw [htext, skipBlanks_append hb, (hname.starts.append _).skipBlanks]
  have hread : read text.toList = .ok ⟨String.ofList name, values⟩ := by
    unfold read
    simp only [hstart, name?_append hname (hargs.ahead hend).ends,
      arguments_append hargs hend, hskip]
    rfl
  rw [parse, hread]
  rfl

theorem parse_text (hname : Name r.name.toList) (hargs : ∀ v ∈ r.arguments, Spellable v) :
    parse r.text = .ok r := by
  have htext : r.text.toList = [] ++ (r.name.toList ++ (argumentChars r.arguments ++ [])) := by
    simp [text, chars]
  have hread := parse_complete htext blank_nil blank_nil hname
    (arguments_argumentChars hargs)
  rwa [String.ofList_toList] at hread

theorem spellable_of_parse {text : String} (h : parse text = .ok r) :
    Name r.name.toList ∧ ∀ v ∈ r.arguments, Spellable v := by
  obtain ⟨b, name, args, b', -, -, -, hname, hrname, hargs⟩ := parse_sound h
  rw [hrname, String.toList_ofList]
  exact ⟨hname, hargs.spellable⟩

theorem agrees_iff {r s : Reference} : r.agrees s = true ↔
    r.name = s.name ∧ Json.itemsAgree r.arguments s.arguments = true := by
  simp [agrees]

/-- A reference whose numbers are those of values reads back from its text as an equal one if and
only if its name is a name and its arguments are no arrays and no objects; it is the same one then,
with numbers, keywords and strings that look like them kept apart. Every reference that was read
from a text reads back from its own. -/
theorem text_reads_back :
    (∀ r : Reference, (∀ m, .number m ∈ r.arguments → m.Fits) →
      ((∃ r', parse r.text = .ok r' ∧ r'.agrees r = true) ↔
        Name r.name.toList ∧ ∀ v ∈ r.arguments, v.IsScalar) ∧
      ∀ r', parse r.text = .ok r' → r'.agrees r = true → r' = r) ∧
    ∀ (text : String) (r : Reference), parse text = .ok r → parse r.text = .ok r := by
  have hsame : ∀ text r, parse text = .ok r → parse r.text = .ok r := fun text r h =>
    parse_text (spellable_of_parse h).1 (spellable_of_parse h).2
  refine ⟨fun r hfits => ?_, hsame⟩
  have hback : Name r.name.toList ∧ (∀ v ∈ r.arguments, v.IsScalar) → parse r.text = .ok r := by
    rintro ⟨hname, hscalar⟩
    refine parse_text hname fun v hv => .of_isScalar (hscalar v hv) ?_
    rintro m rfl
    exact hfits m hv
  have hform : ∀ r', parse r.text = .ok r' → r'.agrees r = true →
      Name r.name.toList ∧ ∀ v ∈ r.arguments, v.IsScalar := by
    intro r' hr' hagrees
    obtain ⟨hname, hvalues⟩ := spellable_of_parse hr'
    obtain ⟨hsame, hitems⟩ := agrees_iff.1 hagrees
    exact ⟨hsame ▸ hname, isScalar_of_itemsAgree hvalues hitems⟩
  refine ⟨⟨fun ⟨r', hr', hagrees⟩ => hform r' hr' hagrees, fun h => ?_⟩, fun r' hr' hagrees => ?_⟩
  · have hvalues := (spellable_of_parse (hback h)).2
    exact ⟨r, hback h, agrees_iff.2 ⟨rfl, itemsAgree_self hvalues⟩⟩
  · have hread := hback (hform r' hr' hagrees)
    exact Except.ok.inj (hr'.symm.trans hread)

/-- A number, a string and a float that look alike, a keyword, and a string with both marks that
need a backslash. -/
def padding : Reference :=
  ⟨"pad_left", [.ofInt 7, .string "7", .ofFloat (.ofNat 7), .null, .string "it's \\"]⟩

theorem text_reads_back_padding :
    (∀ m, .number m ∈ padding.arguments → m.Fits) ∧
      padding.text = "pad_left:7:'7':7.0:null:'it\\'s \\\\'" ∧
      (∃ r', parse padding.text = .ok r' ∧ r'.agrees padding = true) ∧
      ¬∃ r', parse (Reference.text ⟨"pad left", []⟩) = .ok r' ∧
        r'.agrees ⟨"pad left", []⟩ = true := by
  have hfinite : (Binary64.ofNat 7).isFinite = true := by decide +kernel
  have hfits : ∀ m, .number m ∈ padding.arguments → m.Fits := by
    intro m hm
    simp only [padding, List.mem_cons, Json.ofInt, Json.ofFloat, Json.number.injEq, reduceCtorEq,
      List.not_mem_nil, or_false, false_or] at hm
    rcases hm with rfl | rfl
    · exact ⟨by decide, by decide⟩
    · exact hfinite
  have hname : Name padding.name.toList := .of_all rfl rfl
  have hscalar : ∀ v ∈ padding.arguments, v.IsScalar := by
    simp [padding, Json.IsScalar, Json.asArray?, Json.asObject?, Json.ofInt, Json.ofFloat]
  obtain ⟨hiff, -⟩ := text_reads_back
  refine ⟨hfits, by decide +kernel, (hiff padding hfits).1.2 ⟨hname, hscalar⟩, fun h => ?_⟩
  -- the blank in the name is what stands in the way
  have hspace := ((hiff ⟨"pad left", []⟩ (by simp)).1.1 h).1.isNameChar ' ' (by decide)
  exact absurd hspace (by decide)

end Filter.Reference

end Reshape

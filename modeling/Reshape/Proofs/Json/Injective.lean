import Reshape.Proofs.Json.Characters

namespace Reshape.Json

open Binary64 (isNumeral)

def Number.Finite : Number → Prop
  | .whole _ => True
  | .float f => f.isFinite = true

/-- No float in the value is infinite or no number. -/
inductive Finite : Json → Prop
  | null : Finite .null
  | bool (b : Bool) : Finite (.bool b)
  | number {m : Number} (hm : m.Finite) : Finite (.number m)
  | string (s : String) : Finite (.string s)
  | array {items : List Json} (hitems : ∀ item ∈ items, Finite item) : Finite (.array items)
  | object {members : Members} (hmembers : ∀ entry ∈ members, Finite entry.2) :
    Finite (.object members)

@[simp] theorem finite_number {m : Number} : Finite (.number m) ↔ m.Finite := by
  constructor
  · rintro ⟨⟩
    assumption
  · exact .number

@[simp] theorem finite_array {items : List Json} :
    Finite (.array items) ↔ ∀ item ∈ items, Finite item := by
  constructor
  · rintro ⟨⟩
    assumption
  · exact .array

@[simp] theorem finite_object {members : Members} :
    Finite (.object members) ↔ ∀ entry ∈ members, Finite entry.2 := by
  constructor
  · rintro ⟨⟩
    assumption
  · exact .object

/-- A text that cannot go on with a number. -/
def EndsNumber (s : List Char) : Prop := ∀ c ∈ s.head?, isNumeral c = false

theorem endsNumber_nil : EndsNumber [] := by simp [EndsNumber]

theorem EndsNumber.cons {c : Char} (h : isNumeral c = false) (s : List Char) :
    EndsNumber (c :: s) := by
  intro d hd
  obtain rfl := Option.some.inj hd
  exact h

section

variable {α : Type} {text : α → List Char} {ok : α → Prop}

/-- In front of what ends a number, the text of `a` is that of no other `b` and ends where it
does. -/
def ToldApart (text : α → List Char) (ok : α → Prop) (a : α) : Prop :=
  ∀ b s t, ok b → EndsNumber s → EndsNumber t → text a ++ s = text b ++ t → a = b ∧ s = t

def commaTexts (text : α → List Char) (l : List α) : List Char := l.flatMap fun a => ',' :: text a

theorem endsNumber_commaTexts {close : Char} (hclose : isNumeral close = false)
    (text : α → List Char) (l : List α) (s : List Char) :
    EndsNumber (commaTexts text l ++ close :: s) := by
  cases l with
  | nil => exact .cons hclose s
  | cons a l => exact .cons (by decide) _

theorem commaTexts_toldApart {close : Char} (hclose : isNumeral close = false)
    (hcomma : close ≠ ',') {l m : List α} {s t : List Char}
    (hl : ∀ a ∈ l, ToldApart text ok a) (hm : ∀ b ∈ m, ok b)
    (h : commaTexts text l ++ close :: s = commaTexts text m ++ close :: t) : l = m ∧ s = t := by
  induction l generalizing m with
  | nil =>
    cases m with
    | nil => exact ⟨rfl, (List.cons.inj h).2⟩
    | cons b m => exact absurd (List.cons.inj h).1 hcomma
  | cons a l ih =>
    cases m with
    | nil => exact absurd (List.cons.inj h).1.symm hcomma
    | cons b m =>
      have htexts : text a ++ (commaTexts text l ++ close :: s) =
          text b ++ (commaTexts text m ++ close :: t) := by
        simpa [commaTexts] using h
      obtain ⟨rfl, hrest⟩ := hl a List.mem_cons_self b _ _ (hm b List.mem_cons_self)
        (endsNumber_commaTexts hclose text l s) (endsNumber_commaTexts hclose text m t) htexts
      obtain ⟨rfl, rfl⟩ := ih (fun x hx => hl x (List.mem_cons_of_mem _ hx))
        (fun x hx => hm x (List.mem_cons_of_mem _ hx)) hrest
      exact ⟨rfl, rfl⟩

def listText (text : α → List Char) : List α → List Char
  | [] => []
  | a :: l => text a ++ commaTexts text l

/-- A list and its end are told apart if its elements are and none of their texts starts like the
end. -/
theorem listText_toldApart {close : Char} (hclose : isNumeral close = false)
    (hcomma : close ≠ ',') (hstart : ∀ a s t, text a ++ s ≠ close :: t) {l m : List α}
    {s t : List Char} (hl : ∀ a ∈ l, ToldApart text ok a) (hm : ∀ b ∈ m, ok b)
    (h : listText text l ++ close :: s = listText text m ++ close :: t) : l = m ∧ s = t := by
  cases l with
  | nil =>
    cases m with
    | nil => exact ⟨rfl, (List.cons.inj h).2⟩
    | cons b m =>
      refine absurd ?_ (hstart b (commaTexts text m ++ close :: t) s)
      rw [← List.append_assoc]
      exact h.symm
  | cons a l =>
    cases m with
    | nil =>
      refine absurd ?_ (hstart a (commaTexts text l ++ close :: s) t)
      rw [← List.append_assoc]
      exact h
    | cons b m =>
      rw [listText, listText, List.append_assoc, List.append_assoc] at h
      obtain ⟨rfl, hrest⟩ := hl a List.mem_cons_self b _ _ (hm b List.mem_cons_self)
        (endsNumber_commaTexts hclose text l s) (endsNumber_commaTexts hclose text m t) h
      obtain ⟨rfl, rfl⟩ := commaTexts_toldApart hclose hcomma
        (fun x hx => hl x (List.mem_cons_of_mem _ hx))
        (fun x hx => hm x (List.mem_cons_of_mem _ hx)) hrest
      exact ⟨rfl, rfl⟩

end

theorem Number.chars_injective {m n : Number} (hm : m.Finite) (hn : n.Finite)
    (h : m.chars = n.chars) : m = n := by
  cases m with
  | whole i =>
    cases n with
    | whole j =>
      have hread := congrArg readInteger? (show integerText i = integerText j from h)
      rw [readInteger?_integerText, readInteger?_integerText] at hread
      exact congrArg Number.whole (Option.some.inj hread)
    | float g =>
      have hread := congrArg readInteger? (show integerText i = g.write floatLayout from h)
      rw [readInteger?_integerText, Binary64.readInteger?_write] at hread
      exact absurd hread (by simp)
  | float f =>
    cases n with
    | whole j =>
      have hread := congrArg readInteger? (show f.write floatLayout = integerText j from h)
      rw [readInteger?_integerText, Binary64.readInteger?_write] at hread
      exact absurd hread (by simp)
    | float g =>
      have hread := congrArg Binary64.read? (show f.write floatLayout = g.write floatLayout from h)
      rw [Binary64.read?_write hm, Binary64.read?_write hn] at hread
      exact congrArg Number.float (Option.some.inj hread)

theorem Number.toldApart {m : Number} (hm : m.Finite) : ToldApart Number.chars Number.Finite m := by
  intro n s t hn hs ht h
  -- each text is the longest run of characters of numbers
  obtain ⟨htake, hdrop⟩ := Text.span_append (fun c => isNumeral_of_mem_chars (m := m)) hs
  obtain ⟨htake', hdrop'⟩ := Text.span_append (fun c => isNumeral_of_mem_chars (m := n)) ht
  rw [h] at htake hdrop
  exact ⟨chars_injective hm hn (htake.symm.trans htake'), hdrop.symm.trans hdrop'⟩

theorem quoted_toldApart {a b : String} {s t : List Char} (h : quoted a ++ s = quoted b ++ t) :
    a = b ∧ s = t := by
  rw [quoted_append, quoted_append] at h
  have hread := congrArg stringBody? (List.cons.inj h).2
  rw [stringBody?_quoted, stringBody?_quoted] at hread
  obtain ⟨hchars, rfl⟩ := Prod.mk.inj (Option.some.inj hread)
  exact ⟨String.toList_inj.1 hchars, rfl⟩

theorem itemChars_eq (items : List Json) : itemChars items = listText chars items := by
  induction items with
  | nil => rfl
  | cons item items ih =>
    cases items with
    | nil => simp [itemChars, listText, commaTexts]
    | cons next items =>
      rw [itemChars, ih]
      · simp [listText, commaTexts]
      · simp

def memberText (entry : String × Json) : List Char := quoted entry.1 ++ ':' :: chars entry.2

theorem memberChars_eq (members : Members) : memberChars members = listText memberText members := by
  induction members with
  | nil => rfl
  | cons entry members ih =>
    obtain ⟨key, value⟩ := entry
    cases members with
    | nil => simp [memberChars, listText, commaTexts, memberText]
    | cons next members =>
      rw [memberChars, ih]
      · simp [listText, commaTexts, memberText]
      · simp

/-- What the first character of a value's text says of it. -/
def mark : Json → Char
  | .null => 'n'
  | .bool true => 't'
  | .bool false => 'f'
  | .number _ => '0'
  | .string _ => '"'
  | .array _ => '['
  | .object _ => '\x7b'

/-- Characters with which numbers start count as one. -/
def markOf (c : Char) : Char := if c = '-' ∨ Text.isAsciiDigit c = true then '0' else c

/-- Values whose texts start alike: of one kind, and equal where they have no parts. -/
inductive SameKind : Json → Json → Prop
  | null : SameKind .null .null
  | bool (b : Bool) : SameKind (.bool b) (.bool b)
  | number (m n : Number) : SameKind (.number m) (.number n)
  | string (a b : String) : SameKind (.string a) (.string b)
  | array (items others : List Json) : SameKind (.array items) (.array others)
  | object (members others : Members) : SameKind (.object members) (.object others)

theorem sameKind_of_mark_eq {v w : Json} (h : v.mark = w.mark) : SameKind v w := by
  rcases v with _ | (_ | _) | _ | _ | _ | _ <;> rcases w with _ | (_ | _) | _ | _ | _ | _ <;>
    first | constructor | simp [mark] at h

theorem exists_integerText (n : ℤ) :
    ∃ c rest, integerText n = c :: rest ∧ (c = '-' ∨ Text.isAsciiDigit c = true) :=
  starts_of_literal? (literal?_integerText n)

theorem exists_write (f : Binary64) : ∃ c rest, f.write floatLayout = c :: rest ∧
    (c = '-' ∨ Text.isAsciiDigit c = true) := by
  obtain ⟨body, htext, hbody⟩ := Binary64.body_write f floatLayout
  obtain ⟨c, tail, rfl, hc⟩ := hbody.start
  rw [htext, Binary64.signText]
  split
  · exact ⟨'-', c :: tail, rfl, .inl rfl⟩
  · exact ⟨c, tail, rfl, .inr hc⟩

theorem exists_chars (v : Json) : ∃ c rest, v.chars = c :: rest ∧ markOf c = v.mark := by
  cases v with
  | bool b => cases b <;> exact ⟨_, _, rfl, rfl⟩
  | number m =>
    have hstart : ∃ c rest, m.chars = c :: rest ∧ (c = '-' ∨ Text.isAsciiDigit c = true) := by
      cases m with
      | whole n => exact exists_integerText n
      | float f => exact exists_write f
    obtain ⟨c, rest, hchars, hc⟩ := hstart
    exact ⟨c, rest, hchars, if_pos hc⟩
  | _ => exact ⟨_, _, rfl, rfl⟩

theorem sameKind_of_append {v w : Json} {s t : List Char} (h : v.chars ++ s = w.chars ++ t) :
    SameKind v w := by
  obtain ⟨c, rest, hv, hmark⟩ := exists_chars v
  obtain ⟨d, rest', hw, hmark'⟩ := exists_chars w
  rw [hv, hw] at h
  obtain ⟨rfl, -⟩ := List.cons.inj h
  exact sameKind_of_mark_eq (hmark.symm.trans hmark')

theorem chars_ne_close (v : Json) (s t : List Char) : v.chars ++ s ≠ ']' :: t := by
  obtain ⟨c, rest, hchars, hmark⟩ := exists_chars v
  rw [hchars]
  intro h
  obtain ⟨rfl, -⟩ := List.cons.inj h
  have hclose : markOf ']' = ']' := rfl
  rw [hclose] at hmark
  rcases v with _ | (_ | _) | _ | _ | _ | _ <;> simp [mark] at hmark

theorem memberText_toldApart {entry : String × Json} (h : ToldApart chars Finite entry.2) :
    ToldApart memberText (fun other => Finite other.2) entry := by
  intro other s t hother hs ht heq
  unfold memberText at heq
  rw [List.append_assoc, List.append_assoc] at heq
  obtain ⟨hkey, hrest⟩ := quoted_toldApart heq
  obtain ⟨hvalue, rfl⟩ := h other.2 s t hother hs ht (List.cons.inj hrest).2
  exact ⟨Prod.ext hkey hvalue, rfl⟩

theorem Finite.toldApart {v : Json} (h : Finite v) : ToldApart chars Finite v := by
  -- texts that start alike are of one kind, so each case has one other value to look at
  induction h with
  | null =>
    intro w s t _ _ _ heq
    cases sameKind_of_append heq
    exact ⟨rfl, List.append_cancel_left heq⟩
  | bool b =>
    intro w s t _ _ _ heq
    cases sameKind_of_append heq
    exact ⟨rfl, List.append_cancel_left heq⟩
  | number hm =>
    intro w s t hw hs ht heq
    cases sameKind_of_append heq with
    | number m n =>
      obtain ⟨rfl, rfl⟩ := Number.toldApart hm n s t (finite_number.1 hw) hs ht heq
      exact ⟨rfl, rfl⟩
  | string a =>
    intro w s t _ _ _ heq
    cases sameKind_of_append heq
    obtain ⟨rfl, rfl⟩ := quoted_toldApart heq
    exact ⟨rfl, rfl⟩
  | array _ ih =>
    intro w s t hw _ _ heq
    cases sameKind_of_append heq with
    | array items others =>
      simp only [chars, itemChars_eq, List.cons_append, List.append_assoc, List.nil_append] at heq
      obtain ⟨rfl, rfl⟩ := listText_toldApart (by decide) (by decide) chars_ne_close ih
        (finite_array.1 hw) (List.cons.inj heq).2
      exact ⟨rfl, rfl⟩
  | object _ ih =>
    intro w s t hw _ _ heq
    cases sameKind_of_append heq with
    | object members others =>
      simp only [chars, memberChars_eq, List.cons_append, List.append_assoc,
        List.nil_append] at heq
      have hstart : ∀ entry s t, memberText entry ++ s ≠ '\x7d' :: t := by
        intro entry s t hclose
        exact absurd (List.cons.inj hclose).1 (by decide)
      obtain ⟨rfl, rfl⟩ := listText_toldApart (by decide) (by decide) hstart
        (fun entry hentry => memberText_toldApart (ih entry hentry)) (finite_object.1 hw)
        (List.cons.inj heq).2
      exact ⟨rfl, rfl⟩

theorem chars_injective {v w : Json} (hv : Finite v) (hw : Finite w) (h : v.chars = w.chars) :
    v = w :=
  (hv.toldApart w [] [] hw endsNumber_nil endsNumber_nil (by rw [h])).1

/-- The compact text of a value tells it from every other value. -/
theorem write_injective {v w : Json} (hv : Finite v) (hw : Finite w) (h : v.write = w.write) :
    v = w :=
  chars_injective hv hw (String.ofList_inj.1 h)

end Reshape.Json

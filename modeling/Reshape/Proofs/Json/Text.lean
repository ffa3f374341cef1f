import Reshape.Proofs.Json.Literal
import Reshape.Proofs.Sorted

namespace Reshape.Json

theorem hexValue?_hexDigit : ∀ n < 16, hexValue? (hexDigit n) = some n := by decide

theorem stringBody?_quote (s : List Char) : stringBody? ('"' :: s) = some ([], s) := by
  rw [stringBody?, if_pos rfl]

theorem stringBody?_of_escape? {s behind : List Char} {c : Char}
    (h : escape? s = some (c, behind)) :
    stringBody? ('\\' :: s) = (stringBody? behind).map fun found => (c :: found.1, found.2) := by
  rw [stringBody?, if_neg (by decide), if_pos rfl]
  split
  · next hnone => exact absurd (h.symm.trans hnone) (by simp)
  · next hsome =>
    obtain ⟨rfl, rfl⟩ := Prod.mk.inj (Option.some.inj (h.symm.trans hsome))
    rfl

theorem stringBody?_plain {c : Char} (hq : c ≠ '"') (hb : c ≠ '\\') (hc : ¬c.toNat < 32)
    (s : List Char) :
    stringBody? (c :: s) = (stringBody? s).map fun found => (c :: found.1, found.2) := by
  rw [stringBody?, if_neg hq, if_neg hb, if_neg hc]

theorem escape?_simple {c d : Char} (hu : d ≠ 'u') (h : simpleEscape? d = some c)
    (s : List Char) : escape? (d :: s) = some (c, s) := by
  rw [escape?, if_neg hu, h]
  rfl

theorem escape?_control {c : Char} (hc : c.toNat < 32) (s : List Char) :
    escape? ('u' :: '0' :: '0' :: hexDigit (c.toNat / 16) :: hexDigit (c.toNat % 16) :: s) =
      some (c, s) := by
  have hzero : hexValue? '0' = some 0 := by decide
  have hhigh := hexValue?_hexDigit (c.toNat / 16) (by omega)
  have hlow := hexValue?_hexDigit (c.toNat % 16) (by omega)
  have hcode : ((0 * 16 + 0) * 16 + c.toNat / 16) * 16 + c.toNat % 16 = c.toNat := by omega
  have hfour : hexFour? ('0' :: '0' :: hexDigit (c.toNat / 16) :: hexDigit (c.toNat % 16) :: s) =
      some (c.toNat, s) := by
    simp only [hexFour?, hzero, hhigh, hlow, Option.bind_eq_bind, Option.bind_some,
      Option.pure_def, hcode]
  rw [escape?, if_pos rfl, unicodeEscape?, hfour]
  simp only
  rw [if_pos (.inl (by omega)), Char.ofNat_toNat]

theorem stringBody?_escapeChar (c : Char) (s : List Char) : stringBody? (escapeChar c ++ s) =
    (stringBody? s).map fun found => (c :: found.1, found.2) := by
  unfold escapeChar
  split
  · next h => exact stringBody?_of_escape? (escape?_simple (by decide) (by rw [h]; rfl) s)
  split
  · next h => exact stringBody?_of_escape? (escape?_simple (by decide) (by rw [h]; rfl) s)
  split
  · next h =>
    have hc : c = Char.ofNat 8 := by rw [← h, Char.ofNat_toNat]
    exact stringBody?_of_escape? (escape?_simple (by decide) (by rw [hc]; rfl) s)
  split
  · next h =>
    have hc : c = Char.ofNat 12 := by rw [← h, Char.ofNat_toNat]
    exact stringBody?_of_escape? (escape?_simple (by decide) (by rw [hc]; rfl) s)
  split
  · next h => exact stringBody?_of_escape? (escape?_simple (by decide) (by rw [h]; rfl) s)
  split
  · next h => exact stringBody?_of_escape? (escape?_simple (by decide) (by rw [h]; rfl) s)
  split
  · next h => exact stringBody?_of_escape? (escape?_simple (by decide) (by rw [h]; rfl) s)
  split
  · next h => exact stringBody?_of_escape? (escape?_control h s)
  · next hq hb _ _ _ _ _ hc => exact stringBody?_plain hq hb hc s

theorem stringBody?_quoted (body rest : List Char) :
    stringBody? (body.flatMap escapeChar ++ '"' :: rest) = some (body, rest) := by
  induction body with
  | nil => exact stringBody?_quote rest
  | cons c body ih =>
    rw [List.flatMap_cons, List.append_assoc, stringBody?_escapeChar, ih]
    rfl

theorem quoted_append (s : String) (rest : List Char) :
    quoted s ++ rest = '"' :: (s.toList.flatMap escapeChar ++ '"' :: rest) := by
  simp [quoted]

/-- What was read and what is left, without the bound on its length. -/
def front {α : Type} {s : List Char} (found : Option (α × Rest s)) : Option (α × List Char) :=
  found.map fun (a, rest) => (a, rest.val)

section

variable {depth : ℕ} {s rest : List Char}

theorem exists_of_front {α : Type} {found : Option (α × Rest s)} {a : α}
    (h : front found = some (a, rest)) : ∃ hr, found = some (a, ⟨rest, hr⟩) := by
  obtain ⟨⟨a', behind, hb⟩, hfound, hpair⟩ := Option.map_eq_some_iff.1 h
  obtain ⟨rfl, rfl⟩ := Prod.mk.inj hpair
  exact ⟨hb, hfound⟩

theorem skipSpace_cons {c : Char} (h : isSpace c = false) (s : List Char) :
    skipSpace (c :: s) = c :: s := by
  rw [skipSpace, List.dropWhile_cons, h]
  rfl

theorem front_number? {l : Literal} {m : Number} (hl : literal? s = some (l, rest))
    (hm : l.number? = some m) : front (number? s) = some (m, rest) := by
  unfold number?
  split
  · next hnone => exact absurd (hl.symm.trans hnone) (by simp)
  · next hsome =>
    obtain ⟨rfl, rfl⟩ := Prod.mk.inj (Option.some.inj (hl.symm.trans hsome))
    rw [hm]
    rfl

theorem front_value?_null : front (value? depth ('n' :: 'u' :: 'l' :: 'l' :: rest)) =
    some (.null, rest) := by
  rw [value?]
  rfl

theorem front_value?_bool (b : Bool) :
    front (value? depth (boolChars b ++ rest)) = some (.bool b, rest) := by
  cases b
  · show front (value? depth ('f' :: 'a' :: 'l' :: 's' :: 'e' :: rest)) = _
    rw [value?]
    rfl
  · show front (value? depth ('t' :: 'r' :: 'u' :: 'e' :: rest)) = _
    rw [value?]
    rfl

theorem front_value?_string {body : List Char} (h : stringBody? s = some (body, rest)) :
    front (value? depth ('"' :: s)) = some (.string (String.ofList body), rest) := by
  rw [value?]
  split
  · next hnone => exact absurd (h.symm.trans hnone) (by simp)
  · next hsome =>
    obtain ⟨rfl, rfl⟩ := Prod.mk.inj (Option.some.inj (h.symm.trans hsome))
    rfl

theorem front_value?_number {m : Number} {c : Char}
    (hc : c = '-' ∨ Text.isAsciiDigit c = true) (h : front (number? (c :: s)) = some (m, rest)) :
    front (value? depth (c :: s)) = some (.number m, rest) := by
  obtain ⟨_, hfound⟩ := exists_of_front h
  rw [value?, hfound]
  · rfl
  all_goals
    intro _ hs
    obtain ⟨rfl, -⟩ := List.cons.inj hs
    revert hc
    decide

/-- Brackets with nothing between them. -/
theorem front_value?_brackets {opening closing : Char} {v : Json}
    (h : (opening, closing, v) = ('[', ']', .array []) ∨
      (opening, closing, v) = ('{', '}', .object [])) :
    front (value? (depth + 1) (opening :: closing :: rest)) = some (v, rest) := by
  rcases h with h | h
  all_goals
    cases h
    rw [value?]
    simp only
    split
    · next behind h =>
      rw [skipSpace_cons (by decide)] at h
      obtain ⟨-, rfl⟩ := List.cons.inj h
      rfl
    · next hne => exact absurd (skipSpace_cons (by decide) rest) (hne rest)

theorem front_value?_items (hopen : ∀ behind, skipSpace s ≠ ']' :: behind) {items : List Json}
    (h : front (items? depth (skipSpace s)) = some (items, rest)) :
    front (value? (depth + 1) ('[' :: s)) = some (.array items, rest) := by
  obtain ⟨hr, hfound⟩ := exists_of_front h
  rw [value?, hfound]
  split
  · next behind hs => exact absurd hs (hopen behind)
  · rfl

theorem front_value?_members (hopen : ∀ behind, skipSpace s ≠ '}' :: behind) {members : Members}
    (h : front (members? depth (skipSpace s)) = some (members, rest)) :
    front (value? (depth + 1) ('{' :: s)) = some (.object members, rest) := by
  obtain ⟨hr, hfound⟩ := exists_of_front h
  rw [value?, hfound]
  split
  · next behind hs => exact absurd hs (hopen behind)
  · rfl

theorem front_items? {item : Json} {behind : List Char}
    (h : front (value? depth s) = some (item, behind)) : front (items? depth s) =
      match skipSpace behind with
      | ']' :: rest => some ([item], rest)
      | ',' :: more =>
        (front (items? depth (skipSpace more))).map fun found => (item :: found.1, found.2)
      | _ => none := by
  obtain ⟨hr, hfound⟩ := exists_of_front h
  rw [items?, hfound]
  simp only
  split
  · next hs => simp [hs, front]
  · next more hs =>
    simp only [hs]
    cases items? depth (skipSpace more) <;> rfl
  · next hlast hmore =>
    split
    · next hs => exact absurd hs (hlast _)
    · next hs => exact absurd hs (hmore _)
    · rfl

theorem front_members? {key : String} {value : Json} {behind : List Char}
    (h : front (value? depth (skipSpace s)) = some (value, behind)) :
    front (members? depth (quoted key ++ ':' :: s)) =
      match skipSpace behind with
      | '}' :: rest => some ([(key, value)], rest)
      | ',' :: more => (front (members? depth (skipSpace more))).map fun found =>
          ((key, value) :: found.1, found.2)
      | _ => none := by
  have hkey := stringBody?_quoted key.toList (':' :: s)
  obtain ⟨hr, hvalue⟩ := exists_of_front h
  rw [quoted_append, members?]
  split
  · next hnone => exact absurd (hkey.symm.trans hnone) (by simp)
  · next hsome =>
    obtain ⟨rfl, rfl⟩ := Prod.mk.inj (Option.some.inj (hkey.symm.trans hsome))
    -- no white space is written in front of the colon
    have hcolon : skipSpace (':' :: s) = ':' :: s := skipSpace_cons (by decide) s
    simp only [String.ofList_toList]
    split
    · next hfound =>
      obtain ⟨-, rfl⟩ := List.cons.inj (hcolon.symm.trans hfound)
      rw [hvalue]
      simp only
      split
      · next hs => simp [hs, front]
      · next more hs =>
        simp only [hs]
        cases members? depth (skipSpace more) <;> rfl
      · next hlast hmore =>
        split
        · next hs => exact absurd hs (hlast _)
        · next hs => exact absurd hs (hmore _)
        · rfl
    · next hnone => exact absurd hcolon (hnone s)

end

/-- What the reader gives back of the text of a value: no object holds a key twice, every number
reads back, and at most `depth` levels are nested. -/
inductive Storable : ℕ → Json → Prop
  | null {depth : ℕ} : Storable depth .null
  | bool {depth : ℕ} (b : Bool) : Storable depth (.bool b)
  | number {depth : ℕ} {m : Number} (hm : m.ReadsBack) : Storable depth (.number m)
  | string {depth : ℕ} (s : String) : Storable depth (.string s)
  | array {depth : ℕ} {items : List Json} (hitems : ∀ item ∈ items, Storable depth item) :
    Storable (depth + 1) (.array items)
  | object {depth : ℕ} {members : Members} (hkeys : members.keys.Nodup)
    (hmembers : ∀ entry ∈ members, Storable depth entry.2) :
    Storable (depth + 1) (.object members)

section

variable {depth : ℕ} {rest : List Char}

@[simp] theorem storable_null : Storable depth .null := .null

@[simp] theorem storable_bool (b : Bool) : Storable depth (.bool b) := .bool b

@[simp] theorem storable_string (s : String) : Storable depth (.string s) := .string s

@[simp] theorem storable_number {m : Number} : Storable depth (.number m) ↔ m.ReadsBack := by
  constructor
  · rintro ⟨⟩
    assumption
  · exact .number

@[simp] theorem storable_array {items : List Json} :
    Storable (depth + 1) (.array items) ↔ ∀ item ∈ items, Storable depth item := by
  constructor
  · rintro ⟨⟩
    assumption
  · exact .array

@[simp] theorem storable_object {members : Members} : Storable (depth + 1) (.object members) ↔
    members.keys.Nodup ∧ ∀ entry ∈ members, Storable depth entry.2 := by
  constructor
  · rintro ⟨⟩
    exact ⟨by assumption, by assumption⟩
  · exact fun ⟨hkeys, hmembers⟩ => .object hkeys hmembers

/-- A text that starts with neither white space nor the bracket that closes a list. -/
def Opens (s : List Char) : Prop := ∃ c more, s = c :: more ∧ isSpace c = false ∧ c ≠ ']'

namespace Opens

variable {s : List Char}

theorem append (h : Opens s) (rest : List Char) : Opens (s ++ rest) := by
  obtain ⟨c, more, rfl, hc⟩ := h
  exact ⟨c, more ++ rest, rfl, hc⟩

theorem skipSpace_eq (h : Opens s) : skipSpace s = s := by
  obtain ⟨c, more, rfl, hc, -⟩ := h
  exact skipSpace_cons hc more

theorem ne_close (h : Opens s) (behind : List Char) : skipSpace s ≠ ']' :: behind := by
  rw [h.skipSpace_eq]
  obtain ⟨c, more, rfl, -, hc⟩ := h
  exact fun he => hc (List.cons.inj he).1

end Opens

theorem isSpace_of_isAsciiDigit {c : Char} (h : Text.isAsciiDigit c = true) :
    isSpace c = false ∧ c ≠ ']' := by
  have hc : ∀ d : Char, Text.isAsciiDigit d = false → c ≠ d := by
    rintro d hd rfl
    exact absurd (h.symm.trans hd) (by decide)
  have hblank := hc ' ' (by decide)
  have htab := hc '\t' (by decide)
  have hline := hc '\n' (by decide)
  have hreturn := hc '\r' (by decide)
  exact ⟨by simp [isSpace, hblank, htab, hline, hreturn], hc ']' (by decide)⟩

theorem Storable.opens {v : Json} (h : Storable depth v) : Opens v.chars := by
  cases h with
  | null => exact ⟨_, _, rfl, by decide, by decide⟩
  | bool b => cases b <;> exact ⟨_, _, rfl, by decide, by decide⟩
  | number hm =>
    obtain ⟨l, hl, -⟩ := hm
    obtain ⟨c, s, hs, rfl | hc⟩ := starts_of_literal? hl
    · exact ⟨_, _, hs, by decide, by decide⟩
    · exact ⟨_, _, hs, isSpace_of_isAsciiDigit hc⟩
  | string s => exact ⟨_, _, rfl, by decide, by decide⟩
  | array hitems => exact ⟨_, _, rfl, by decide, by decide⟩
  | object hkeys hmembers => exact ⟨_, _, rfl, by decide, by decide⟩

theorem opens_itemChars {items : List Json} (hne : items ≠ [])
    (h : ∀ item ∈ items, Storable depth item) : Opens (itemChars items) := by
  cases items with
  | nil => exact absurd rfl hne
  | cons item items =>
    have hitem := (h item List.mem_cons_self).opens
    cases items with
    | nil => exact hitem
    | cons next items => exact hitem.append _

theorem exists_memberChars {members : Members} (hne : members ≠ []) :
    ∃ s, memberChars members = '"' :: s := by
  cases members with
  | nil => exact absurd rfl hne
  | cons entry members => cases members <;> exact ⟨_, rfl⟩

theorem skipSpace_memberChars {members : Members} (hne : members ≠ []) (s : List Char) :
    skipSpace (memberChars members ++ s) = memberChars members ++ s := by
  obtain ⟨more, hquote⟩ := exists_memberChars hne
  rw [hquote, List.cons_append, skipSpace_cons (by decide)]

/-- The reader finds a value in front of whatever ends it. -/
def Found (depth : ℕ) (v : Json) : Prop :=
  ∀ rest, EndsLiteral rest → front (value? depth (v.chars ++ rest)) = some (v, rest)

theorem front_items?_itemChars {items : List Json} (hne : items ≠ [])
    (hstorable : ∀ item ∈ items, Storable depth item) (h : ∀ item ∈ items, Found depth item) :
    front (items? depth (itemChars items ++ ']' :: rest)) = some (items, rest) := by
  induction items with
  | nil => exact absurd rfl hne
  | cons item items ih =>
    have hitem := h item List.mem_cons_self
    have hrest : ∀ i ∈ items, Storable depth i := fun i hi =>
      hstorable i (List.mem_cons_of_mem _ hi)
    cases items with
    | nil =>
      have hread := hitem (']' :: rest) (.cons (by decide) rest)
      rw [itemChars, front_items? hread, skipSpace_cons (by decide)]
      rfl
    | cons next items =>
      have hmore := ih (by simp) hrest fun i hi => h i (List.mem_cons_of_mem _ hi)
      have hopen := (opens_itemChars (by simp) hrest).append (']' :: rest)
      have hread := hitem (',' :: (itemChars (next :: items) ++ ']' :: rest)) (.cons (by decide) _)
      rw [itemChars, List.append_assoc, List.cons_append, front_items? hread,
        skipSpace_cons (by decide)]
      · simp only
        rw [hopen.skipSpace_eq, hmore]
        rfl
      · simp

theorem front_members?_memberChars {members : Members} (hne : members ≠ [])
    (hstorable : ∀ entry ∈ members, Storable depth entry.2)
    (h : ∀ entry ∈ members, Found depth entry.2) :
    front (members? depth (memberChars members ++ '}' :: rest)) = some (members, rest) := by
  induction members with
  | nil => exact absurd rfl hne
  | cons entry members ih =>
    obtain ⟨key, value⟩ := entry
    have hvalue : Found depth value := h (key, value) List.mem_cons_self
    have hopen : Opens value.chars := (hstorable (key, value) List.mem_cons_self).opens
    cases members with
    | nil =>
      -- the last member, which the closing brace ends
      have hread := hvalue ('}' :: rest) (.cons (by decide) rest)
      rw [← (hopen.append _).skipSpace_eq] at hread
      rw [memberChars, List.append_assoc, List.cons_append, front_members? hread,
        skipSpace_cons (by decide)]
      rfl
    | cons next members =>
      have hmore := ih (by simp) (fun e he => hstorable e (List.mem_cons_of_mem _ he))
        fun e he => h e (List.mem_cons_of_mem _ he)
      have hread := hvalue (',' :: (memberChars (next :: members) ++ '}' :: rest))
        (.cons (by decide) _)
      rw [← (hopen.append _).skipSpace_eq] at hread
      rw [memberChars, List.append_assoc, List.cons_append, List.append_assoc, List.cons_append,
        front_members? hread, skipSpace_cons (by decide)]
      · simp only
        rw [skipSpace_memberChars (by simp), hmore]
        rfl
      · simp

/-- The text of a value is read up to its end. -/
theorem Storable.found {v : Json} (h : Storable depth v) : Found depth v := by
  induction h with
  | null => exact fun rest _ => front_value?_null
  | bool b => exact fun rest _ => front_value?_bool b
  | number hm =>
    intro rest hr
    obtain ⟨l, hl, hnumber⟩ := hm
    obtain ⟨c, s, hs, hc⟩ := starts_of_literal? hl
    have hread := front_number? (literal?_append hl hr) hnumber
    rw [hs] at hread
    show front (value? _ (Number.chars _ ++ rest)) = _
    rw [hs]
    exact front_value?_number hc hread
  | string s =>
    intro rest _
    show front (value? _ (quoted s ++ rest)) = _
    rw [quoted_append, front_value?_string (stringBody?_quoted s.toList rest), String.ofList_toList]
  | @array depth items hitems ih =>
    intro rest _
    rw [chars, List.cons_append, List.append_assoc, List.singleton_append]
    -- the reader has a branch of its own for brackets with nothing between them
    by_cases hne : items = []
    · subst hne
      exact front_value?_brackets (.inl rfl)
    · have hopen := (opens_itemChars hne hitems).append (']' :: rest)
      apply front_value?_items hopen.ne_close
      rw [hopen.skipSpace_eq]
      exact front_items?_itemChars hne hitems ih
  | @object depth members hkeys hmembers ih =>
    intro rest _
    rw [chars, List.cons_append, List.append_assoc, List.singleton_append]
    by_cases hne : members = []
    · subst hne
      exact front_value?_brackets (.inr rfl)
    · obtain ⟨more, hquote⟩ := exists_memberChars hne
      apply front_value?_members
      · rw [skipSpace_memberChars hne, hquote]
        simp
      · rw [skipSpace_memberChars hne]
        exact front_members?_memberChars hne hmembers ih

theorem mergedItems_eq {items : List Json} (h : ∀ item ∈ items, merged item = item) :
    mergedItems items = items := by
  induction items with
  | nil => rfl
  | cons item items ih =>
    rw [mergedItems, h item List.mem_cons_self, ih fun i hi => h i (List.mem_cons_of_mem _ hi)]

theorem mergedMembers_eq {members : Members} (h : ∀ entry ∈ members, merged entry.2 = entry.2) :
    mergedMembers members = members := by
  induction members with
  | nil => rfl
  | cons entry members ih =>
    have hentry : merged entry.2 = entry.2 := h entry List.mem_cons_self
    rw [mergedMembers, hentry, ih fun e he => h e (List.mem_cons_of_mem _ he)]

theorem Storable.merged_eq {v : Json} (h : Storable depth v) : merged v = v := by
  induction h with
  | null => rfl
  | bool b => rfl
  | number hm => rfl
  | string s => rfl
  | array hitems ih => rw [merged, mergedItems_eq ih]
  | object hkeys hmembers ih => rw [merged, mergedMembers_eq ih, Members.ofList_of_nodup hkeys]

theorem readTree?_eq (text : String) : readTree? text =
    (front (value? maxDepth (skipSpace text.toList))).bind fun found =>
      if (skipSpace found.2).isEmpty then some found.1 else none := by
  unfold readTree?
  cases value? maxDepth (skipSpace text.toList) <;> rfl

theorem read?_write {v : Json} (h : Storable maxDepth v) : read? v.write = some v := by
  have hfound := h.found [] endsLiteral_nil
  rw [List.append_nil] at hfound
  have hfront : front (value? maxDepth (skipSpace v.write.toList)) = some (v, []) := by
    rw [write, String.toList_ofList, h.opens.skipSpace_eq]
    exact hfound
  rw [read?, readTree?_eq, hfront]
  exact congrArg some h.merged_eq

end

end Reshape.Json

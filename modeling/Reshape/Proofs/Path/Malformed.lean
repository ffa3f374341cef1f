import Reshape.Proofs.Path.Address

namespace Reshape

namespace Path

/-- The texts that end in a dot, or have nothing in them, and what they stop at. -/
inductive Reaches (c : Container) : List Char → Container → Prop where
  | root : Reaches c [] c
  | below {front : List Char} {path : Path} {found : Json} (hpath : parse front = .ok path)
      (hfound : path.resolve c = some found) : Reaches c (front ++ ['.']) (.ofJson found)

/-- No text that a path with a dot behind it could be the front of goes on to an empty key. -/
def NoEmptyKey (c : Container) : Prop :=
  ∀ before reached, Reaches c before reached → reached.key? "" = none

/-- What the rest of a text leads to from a value: to the value itself at the end of the text, and
else on behind the next dot. -/
inductive LeadsOn (value : Json) : List Char → Json → Prop where
  | stop : LeadsOn value [] value
  | on {rest : List Char} {node : Json}
      (h : (Container.ofJson value).resolve (String.ofList rest) = some node) :
      LeadsOn value ('.' :: rest) node

variable {c : Container}

theorem resolve_splitAtDots_nil (c : Container) : (splitAtDots []).resolve c = c.key? "" := by
  have hlookup : (splitAtDots []).resolve c = (c.key? "").bind some := rfl
  rw [hlookup, Option.bind_fun_some]

theorem resolve_splitAtDots_append (c : Container) (p q : List Char) :
    (splitAtDots (p ++ '.' :: q)).resolve c =
      ((splitAtDots p).resolve c).bind fun found =>
        (splitAtDots q).resolve (Container.ofJson found) :=
  resolve_append (segments_append p q) (segments_ne_nil p) (segments_ne_nil q) c

theorem resolve_empty_append {place : List Char} (c : Container)
    (hplace : place = [] ∨ place.head? = some '.') (node : Json) :
    (splitAtDots place).resolve c = some node ↔
      ∃ value, c.key? "" = some value ∧ LeadsOn value place node := by
  rcases hplace with rfl | hdot
  · rw [resolve_splitAtDots_nil]
    constructor
    · exact fun h => ⟨node, h, .stop⟩
    · rintro ⟨value, hvalue, hleads⟩
      cases hleads
      exact hvalue
  · obtain ⟨rest, rfl⟩ := List.head?_eq_some_iff.1 hdot
    have hsplit := resolve_splitAtDots_append c [] rest
    rw [List.nil_append, resolve_splitAtDots_nil] at hsplit
    rw [hsplit, Option.bind_eq_some_iff]
    constructor
    · rintro ⟨value, hvalue, hrest⟩
      refine ⟨value, hvalue, .on ?_⟩
      rwa [Container.resolve, String.toList_ofList]
    · rintro ⟨value, hvalue, hleads⟩
      cases hleads with
      | on hrest =>
        rw [Container.resolve, String.toList_ofList] at hrest
        exact ⟨value, hvalue, hrest⟩

theorem resolve_reached {before place : List Char} (c : Container)
    (hbefore : before = [] ∨ ∃ front path, Spells front path ∧ before = front ++ ['.'])
    (node : Json) : (splitAtDots (before ++ place)).resolve c = some node ↔
      ∃ reached, Reaches c before reached ∧ (splitAtDots place).resolve reached = some node := by
  rcases hbefore with rfl | ⟨front, path, hspells, rfl⟩
  · constructor
    · exact fun h => ⟨c, .root, h⟩
    · rintro ⟨reached, hreached, h⟩
      -- nothing in front of the place leaves the container itself
      generalize hnil : ([] : List Char) = before at hreached
      cases hreached with
      | root => exact h
      | below => exact absurd hnil (by simp)
  · have hpath : parse front = .ok path := parse_eq_ok.2 hspells
    have hsplit : splitAtDots front = path := (parse_eq_ok_iff.1 hpath).2.symm
    rw [List.append_assoc, List.singleton_append, resolve_splitAtDots_append, hsplit,
      Option.bind_eq_some_iff]
    constructor
    · rintro ⟨found, hfound, h⟩
      exact ⟨_, .below hpath hfound, h⟩
    · rintro ⟨reached, hreached, h⟩
      generalize hend : front ++ ['.'] = before at hreached
      cases hreached with
      | root => exact absurd hend (by simp)
      | @below other path' found hpath' hfound =>
        obtain rfl : front = other := List.append_cancel_right hend
        obtain rfl : path = path' := Except.ok.inj (hpath.symm.trans hpath')
        exact ⟨found, hfound, h⟩

/-- The two ways to look a text up in a container. -/
structure Lookups (c : Container) : Prop where
  onPath : ∀ (text : String) (path : Path), parse text.toList = .ok path →
    c.resolve text = path.resolve c
  /-- A text with an empty part is no path. -/
  rejects : ∀ text : List Char,
    (∃ fault, parse text = .error fault) ↔ [] ∈ Text.splitBy isDot text
  /-- A text that is no path leads on from the empty key where its first empty part is. -/
  offPath : ∀ (text : String) (fault : Fault) (place : List Char),
    parse text.toList = .error (fault, place) → ∃ before, text.toList = before ++ place ∧
      ∀ node, c.resolve text = some node ↔ ∃ reached value, Reaches c before reached ∧
        reached.key? "" = some value ∧ LeadsOn value place node
  agree : NoEmptyKey c ↔ ∀ (text : String) (node : Json), c.resolve text = some node ↔
    ∃ path, parse text.toList = .ok path ∧ path.resolve c = some node
  absent : NoEmptyKey c ↔ ∀ (text : String) (fault : Fault × List Char),
    parse text.toList = .error fault → c.resolve text = none ∧ c.has text = false

theorem resolve_of_parse {text : String} {path : Path} (h : parse text.toList = .ok path)
    (c : Container) : c.resolve text = path.resolve c :=
  congrArg (·.resolve c) (parse_eq_ok_iff.1 h).2.symm

theorem rejects_iff {text : List Char} :
    (∃ fault, parse text = .error fault) ↔ [] ∈ Text.splitBy isDot text := by
  constructor
  · rintro ⟨fault, h⟩
    by_contra hparts
    have hpath : parse text = .ok (splitAtDots text) :=
      parse_eq_ok_iff.2 ⟨fun part hp he => hparts (he ▸ hp), rfl⟩
    rw [hpath] at h
    exact absurd h (by simp)
  · intro hempty
    cases h : parse text with
    | error fault => exact ⟨fault, rfl⟩
    | ok path => exact absurd rfl ((parse_eq_ok_iff.1 h).1 [] hempty)

theorem resolve_of_parse_error {text : String} {fault : Fault} {place : List Char}
    (h : parse text.toList = .error (fault, place)) (c : Container) :
    ∃ before, text.toList = before ++ place ∧
      ∀ node, c.resolve text = some node ↔ ∃ reached value, Reaches c before reached ∧
        reached.key? "" = some value ∧ LeadsOn value place node := by
  obtain ⟨before, htext, hstands⟩ := standsAt_of_parse h
  have hsides : (before = [] ∨ ∃ front path, Spells front path ∧ before = front ++ ['.']) ∧
      (place = [] ∨ place.head? = some '.') := by
    cases fault with
    | emptyPath => exact ⟨.inl hstands.1, .inl hstands.2⟩
    | emptySegment => exact hstands.2
  refine ⟨before, htext, fun node => ?_⟩
  rw [Container.resolve, htext, resolve_reached c hsides.1]
  simp only [resolve_empty_append _ hsides.2]
  constructor
  · rintro ⟨reached, hreached, value, hvalue, hleads⟩
    exact ⟨reached, value, hreached, hvalue, hleads⟩
  · rintro ⟨reached, value, hreached, hvalue, hleads⟩
    exact ⟨reached, hreached, value, hvalue, hleads⟩

theorem resolve_eq_none_of_parse_error (hc : NoEmptyKey c) {text : String}
    {fault : Fault × List Char} (h : parse text.toList = .error fault) :
    c.resolve text = none := by
  obtain ⟨before, -, hiff⟩ := resolve_of_parse_error h c
  rw [Option.eq_none_iff_forall_ne_some]
  intro node hnode
  obtain ⟨reached, value, hreached, hvalue, -⟩ := (hiff node).1 hnode
  rw [hc before reached hreached] at hvalue
  exact absurd hvalue (by simp)

/-- Where an empty key is within reach, the text that stops at it is no path and leads to it. -/
theorem noEmptyKey_of_absent (h : ∀ (text : String) (fault : Fault × List Char),
    parse text.toList = .error fault → c.resolve text = none) : NoEmptyKey c := by
  intro before reached hreached
  have hempty : [] ∈ Text.splitBy isDot before := by
    cases hreached with
    | root => exact List.mem_singleton_self []
    | below =>
      have hdot : isDot '.' = true := rfl
      simp [Text.splitBy_append_mark hdot, Text.splitBy]
  obtain ⟨fault, hfault⟩ := rejects_iff.2 hempty
  have hnone := h (String.ofList before) fault (by rwa [String.toList_ofList])
  rw [Container.resolve, String.toList_ofList] at hnone
  cases hreached with
  | root => rwa [resolve_splitAtDots_nil] at hnone
  | @below front path found hpath hfound =>
    have hsplit : splitAtDots front = path := (parse_eq_ok_iff.1 hpath).2.symm
    rwa [resolve_splitAtDots_append, hsplit, hfound, Option.bind_some,
      resolve_splitAtDots_nil] at hnone

theorem agree_iff_absent : (∀ (text : String) (node : Json), c.resolve text = some node ↔
      ∃ path, parse text.toList = .ok path ∧ path.resolve c = some node) ↔
    ∀ (text : String) (fault : Fault × List Char), parse text.toList = .error fault →
      c.resolve text = none := by
  constructor
  · intro hagree text fault h
    rw [Option.eq_none_iff_forall_ne_some]
    intro node hnode
    obtain ⟨path, hpath, -⟩ := (hagree text node).1 hnode
    rw [h] at hpath
    exact absurd hpath (by simp)
  · intro habsent text node
    cases h : parse text.toList with
    | error fault => simp [habsent text fault h]
    | ok path => simp [resolve_of_parse h]

theorem noEmptyKey_iff_absent : NoEmptyKey c ↔
    ∀ (text : String) (fault : Fault × List Char), parse text.toList = .error fault →
      c.resolve text = none :=
  ⟨fun hc _ _ => resolve_eq_none_of_parse_error hc, noEmptyKey_of_absent⟩

theorem lookups_of_container (c : Container) : Lookups c := by
  refine ⟨fun _ _ h => resolve_of_parse h c, fun _ => rejects_iff,
    fun _ _ _ h => resolve_of_parse_error h c,
    noEmptyKey_iff_absent.trans agree_iff_absent.symm, noEmptyKey_iff_absent.trans ?_⟩
  refine forall₃_congr fun text fault _ => ?_
  rw [Container.has, Option.isSome_eq_false_iff, Option.isNone_iff_eq_none, and_self]

mutual

/-- Whether every member at any depth has a key that is not empty. -/
def named : Json → Bool
  | .array items => itemsNamed items
  | .object members => membersNamed members
  | _ => true

def itemsNamed : List Json → Bool
  | [] => true
  | item :: items => named item && itemsNamed items

def membersNamed : Json.Members → Bool
  | [] => true
  | (key, value) :: members => key ≠ "" && named value && membersNamed members

end

theorem named_of_item {items : List Json} (h : itemsNamed items = true) {n : ℕ} {item : Json}
    (hitem : items[n]? = some item) : named item = true := by
  induction items generalizing n with
  | nil => exact absurd hitem (by simp)
  | cons first items ih =>
    rw [itemsNamed, Bool.and_eq_true] at h
    cases n with
    | zero => exact Option.some.inj hitem ▸ h.1
    | succ n => exact ih h.2 hitem

theorem named_of_member {members : Json.Members} (h : membersNamed members = true) {key : String}
    {value : Json} (hvalue : members.get? key = some value) : key ≠ "" ∧ named value = true := by
  induction members with
  | nil => exact absurd hvalue (by simp [Json.Members.get?])
  | cons entry members ih =>
    obtain ⟨first, stored⟩ := entry
    simp only [membersNamed, Bool.and_eq_true, decide_eq_true_eq] at h
    rw [Json.Members.get?, List.lookup_cons] at hvalue
    split at hvalue
    · next hkey =>
      rw [beq_iff_eq] at hkey
      exact ⟨hkey ▸ h.1.1, Option.some.inj hvalue ▸ h.1.2⟩
    · exact ih h.2 hvalue

theorem named_of_key? {doc value : Json} (h : named doc = true) {key : String}
    (hvalue : (Container.ofJson doc).key? key = some value) : key ≠ "" ∧ named value = true := by
  cases doc with
  | object members => exact named_of_member h hvalue
  | _ => exact absurd hvalue (by simp [Container.ofJson, Container.ofItems])

theorem named_of_index? {doc value : Json} (h : named doc = true) {n : ℕ}
    (hvalue : (Container.ofJson doc).index? n = some value) : named value = true := by
  cases doc with
  | array items => exact named_of_item h hvalue
  | _ => exact absurd hvalue (by simp [Container.ofJson, Container.ofMembers])

theorem named_of_lookup {doc value : Json} (h : named doc = true) {segment : Segment}
    (hvalue : segment.lookup (Container.ofJson doc) = some value) : named value = true := by
  cases segment with
  | key name => exact (named_of_key? h hvalue).2
  | index position digits =>
    rcases Option.or_eq_some_iff.1 hvalue with hindex | ⟨-, hkey⟩
    · exact named_of_index? h hindex
    · exact (named_of_key? h hkey).2

theorem named_of_follow {segments : List Segment} {doc value : Json} (h : named doc = true)
    (hvalue : follow segments doc = some value) : named value = true := by
  induction segments generalizing doc with
  | nil => exact Option.some.inj hvalue ▸ h
  | cons segment segments ih =>
    obtain ⟨next, hnext, hrest⟩ := Option.bind_eq_some_iff.1 hvalue
    exact ih (named_of_lookup h hnext) hrest

theorem noEmptyKey_of_named {doc : Json} (h : named doc = true) :
    NoEmptyKey (Container.ofJson doc) := by
  have hkey : ∀ value, named value = true → (Container.ofJson value).key? "" = none := by
    intro value hvalue
    rw [Option.eq_none_iff_forall_ne_some]
    exact fun found hfound => (named_of_key? hvalue hfound).1 rfl
  intro before reached hreached
  cases hreached with
  | root => exact hkey doc h
  | @below front path found hpath hfound =>
    obtain ⟨-, rfl⟩ := parse_eq_ok_iff.1 hpath
    rw [resolve_eq_follow (segments_ne_nil front)] at hfound
    exact hkey found (named_of_follow h hfound)

/-- A container is looked into alike along a text and along the path that the text is read as,
except at empty keys. In a document without such keys there is no exception. -/
theorem lookups_agree_off_empty_keys (c : Container) : Lookups c ∧
    ∀ doc : Json, c = Container.ofJson doc → named doc = true → NoEmptyKey c :=
  ⟨lookups_of_container c, fun _ hdoc hnamed => hdoc ▸ noEmptyKey_of_named hnamed⟩

/-- A record that two empty keys lead into. -/
def drawer : Json :=
  .object [("a", .object [("", .object [("id", .ofInt 1)])]), ("", .null)]

/-- No text is a path that has an empty part, and yet it leads to what is there. -/
theorem lookups_agree_off_empty_keys_drawer :
    parse "a..id".toList = .error (.emptySegment, ".id".toList) ∧
    (Container.ofJson drawer).resolve "a..id" = some (.ofInt 1) ∧
    parse "".toList = .error (.emptyPath, []) ∧ (Container.ofJson drawer).has "" = true ∧
    ¬ NoEmptyKey (Container.ofJson drawer) ∧
    named (.array [drawer, .null]) = false ∧ NoEmptyKey (Container.ofJson (.array [.null])) := by
  have hrejected : parse "a..id".toList = .error (.emptySegment, ".id".toList) := by decide
  have hleads : (Container.ofJson drawer).resolve "a..id" = some (.ofInt 1) := by rfl
  have hnamed := (lookups_agree_off_empty_keys (Container.ofJson (.array [.null]))).2
  refine ⟨hrejected, hleads, by decide, by rfl, fun hnone => ?_, by rfl, hnamed _ rfl rfl⟩
  have habsent := ((lookups_agree_off_empty_keys _).1.absent.1 hnone "a..id" _ hrejected).1
  rw [hleads] at habsent
  exact absurd habsent (by simp)

end Path

end Reshape

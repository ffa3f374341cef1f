import Reshape.Proofs.Number.Text
import Reshape.Proofs.Path

namespace Reshape

namespace Path

theorem segments_append (p q : List Char) : (splitAtDots (p ++ '.' :: q)).segments =
    (splitAtDots p).segments ++ (splitAtDots q).segments := by
  have hdot : isDot '.' = true := rfl
  simp only [splitAtDots, Text.splitBy_append_mark hdot, List.map_append]

theorem segments_ne_nil (text : List Char) : (splitAtDots text).segments ≠ [] := by
  simpa [splitAtDots] using Text.splitBy_ne_nil (p := isDot) text

theorem follow_append (segments others : List Segment) (value : Json) :
    follow (segments ++ others) value = (follow segments value).bind (follow others) := by
  induction segments generalizing value with
  | nil => rfl
  | cons segment segments ih =>
    simp only [List.cons_append, follow, Option.bind_assoc, ih]

/-- From a value on, following segments is resolving them. -/
theorem resolve_eq_follow {path : Path} (hne : path.segments ≠ []) (value : Json) :
    path.resolve (Container.ofJson value) = follow path.segments value := by
  obtain ⟨segment, segments, hcons⟩ := List.exists_cons_of_ne_nil hne
  simp only [resolve, hcons, follow]

/-- The root is a container of its own kind; what a path leads to is a value. -/
theorem resolve_append {path front back : Path}
    (hpath : path.segments = front.segments ++ back.segments) (hfront : front.segments ≠ [])
    (hback : back.segments ≠ []) (c : Container) :
    path.resolve c =
      (front.resolve c).bind fun found => back.resolve (Container.ofJson found) := by
  obtain ⟨segment, segments, hcons⟩ := List.exists_cons_of_ne_nil hfront
  simp only [resolve_eq_follow hback]
  simp only [resolve, hpath, hcons, List.cons_append, Option.bind_assoc, follow_append]

theorem parse_eq_ok_iff {text : List Char} {path : Path} : parse text = .ok path ↔
    (∀ part ∈ Text.splitBy isDot text, part ≠ []) ∧ path = splitAtDots text := by
  rw [← emptyPart?_eq_none]
  unfold parse
  cases text with
  | nil => simp [Text.splitBy, emptyPart?]
  | cons c text =>
    cases emptyPart? (Text.splitBy isDot (c :: text)) with
    | none => simp [eq_comm]
    | some place => simp

theorem parse_append {p q : List Char} {path : Path} : parse (p ++ '.' :: q) = .ok path ↔
    ∃ front back, parse p = .ok front ∧ parse q = .ok back ∧
      path = ⟨front.segments ++ back.segments⟩ := by
  have hdot : isDot '.' = true := rfl
  have hpath : splitAtDots (p ++ '.' :: q) =
      ⟨(splitAtDots p).segments ++ (splitAtDots q).segments⟩ :=
    congrArg Path.mk (segments_append p q)
  simp only [parse_eq_ok_iff, Text.splitBy_append_mark hdot, List.forall_mem_append, hpath]
  constructor
  · rintro ⟨⟨hp, hq⟩, rfl⟩
    exact ⟨_, _, ⟨hp, rfl⟩, ⟨hq, rfl⟩, rfl⟩
  · rintro ⟨front, back, ⟨hp, rfl⟩, ⟨hq, rfl⟩, rfl⟩
    exact ⟨⟨hp, hq⟩, rfl⟩

def padded (zeros position : ℕ) : List Char := List.replicate zeros '0' ++ digitsOf position

inductive Step where
  | member (key : String)
  | item (zeros position : ℕ)

def Step.chars : Step → List Char
  | .member key => key.toList
  | .item zeros position => padded zeros position

/-- The steps from a document down to a node. -/
inductive Leads : Json → List Step → Json → Prop where
  | here (node : Json) : Leads node [] node
  | member {members : Json.Members} {key : String} {value node : Json} {steps : List Step}
      (hvalue : members.get? key = some value) (h : Leads value steps node) :
      Leads (.object members) (.member key :: steps) node
  | item {items : List Json} {zeros position : ℕ} {value node : Json} {steps : List Step}
      (hvalue : items[position]? = some value) (h : Leads value steps node) :
      Leads (.array items) (.item zeros position :: steps) node

def address (steps : List Step) : List Char := Text.joinWith ['.'] (steps.map Step.chars)

/-- Whatever a text is taken for, an object has it as a key. -/
theorem Segment.lookup_object (text : List Char) (members : Json.Members) :
    (Segment.ofText text).lookup (Container.ofJson (.object members)) =
      members.get? (String.ofList text) := by
  unfold Segment.ofText
  split
  · exact Option.none_or
  · rfl

theorem isAsciiDigit_of_mem_padded {zeros position : ℕ} {c : Char}
    (h : c ∈ padded zeros position) : Text.isAsciiDigit c = true :=
  (List.mem_append.1 h).elim Binary64.isAsciiDigit_of_mem_zeros isAsciiDigit_of_mem_digitsOf

theorem padded_ne_nil (zeros position : ℕ) : padded zeros position ≠ [] :=
  List.append_ne_nil_of_right_ne_nil _ (digitsOf_ne_nil position)

@[simp] theorem digitsValue_padded (zeros position : ℕ) :
    digitsValue (padded zeros position) = position := by
  rw [padded, digitsValue_append, digitsValue_zeros, digitsValue_digitsOf, Nat.mul_zero,
    Nat.zero_add]

theorem Segment.ofText_padded {position : ℕ} (hfits : (position : ℤ) ≤ maxUInt64) (zeros : ℕ) :
    Segment.ofText (padded zeros position) =
      .index position (String.ofList (padded zeros position)) := by
  have hdigits : (padded zeros position).all Text.isAsciiDigit = true :=
    List.all_eq_true.2 fun _ hc => isAsciiDigit_of_mem_padded hc
  have hsome : (padded zeros position).isEmpty = false :=
    List.isEmpty_eq_false_iff.2 (padded_ne_nil zeros position)
  unfold Segment.ofText
  rw [digitsValue_padded, hdigits, hsome, if_pos (by simpa using hfits)]

theorem Segment.lookup_array {position : ℕ} (hfits : (position : ℤ) ≤ maxUInt64) (zeros : ℕ)
    (items : List Json) :
    (Segment.ofText (padded zeros position)).lookup (Container.ofJson (.array items)) =
      items[position]? := by
  rw [Segment.ofText_padded hfits]
  exact Option.or_none

theorem Leads.follow {doc node : Json} {steps : List Step} (h : Leads doc steps node)
    (hfits : ∀ zeros position : ℕ, .item zeros position ∈ steps → (position : ℤ) ≤ maxUInt64) :
    follow (steps.map fun step => Segment.ofText step.chars) doc = some node := by
  induction h with
  | here node => rfl
  | @member members key value node steps hvalue h ih =>
    rw [List.map_cons, Path.follow, Step.chars, Segment.lookup_object, String.ofList_toList,
      hvalue]
    exact ih fun zeros position hstep => hfits zeros position (List.mem_cons_of_mem _ hstep)
  | @item items zeros position value node steps hvalue h ih =>
    rw [List.map_cons, Path.follow, Step.chars,
      Segment.lookup_array (hfits zeros position List.mem_cons_self), hvalue]
    exact ih fun zeros position hstep => hfits zeros position (List.mem_cons_of_mem _ hstep)

theorem segments_address {steps : List Step} (hne : steps ≠ [])
    (hdot : ∀ key, .member key ∈ steps → '.' ∉ key.toList) :
    (splitAtDots (address steps)).segments =
      steps.map fun step => Segment.ofText step.chars := by
  have hparts : ∀ part ∈ steps.map Step.chars, '.' ∉ part := by
    rw [List.forall_mem_map]
    intro step hstep
    cases step with
    | member key => exact hdot key hstep
    | item zeros position =>
      exact fun hmem => absurd (isAsciiDigit_of_mem_padded hmem) (by decide)
  have hsplit : Text.splitBy isDot (address steps) = steps.map Step.chars :=
    Text.splitBy_joinWith (by simpa using hne) hparts
  simp only [splitAtDots, hsplit, List.map_map, Function.comp_def]

/-- A path text behind another and a dot is resolved from what the first leads to, it is a path if
both are, and a path is written as it is read. The address of a node leads to it, whatever its keys
look like, if they have no dot, and however many digits its positions are written with. A position
is a number of 64 bits. -/
theorem texts_address_nodes :
    (∀ (c : Container) (p q : String), c.resolve (p ++ "." ++ q) =
      (c.resolve p).bind fun found => (Container.ofJson found).resolve q) ∧
    (∀ (p q : String) (path : Path), parse (p ++ "." ++ q).toList = .ok path ↔
      ∃ front back, parse p.toList = .ok front ∧ parse q.toList = .ok back ∧
        path = ⟨front.segments ++ back.segments⟩) ∧
    (∀ (text : String) (path : Path), parse text.toList = .ok path → path.text = text) ∧
    ∀ (doc node : Json) (steps : List Step), Leads doc steps node → steps ≠ [] →
      (∀ key, .member key ∈ steps → '.' ∉ key.toList) →
      (∀ zeros position : ℕ, .item zeros position ∈ steps → (position : ℤ) ≤ maxUInt64) →
      (Container.ofJson doc).resolve (String.ofList (address steps)) = some node := by
  -- strings are taken apart as lists of characters
  have htext : ∀ p q : String, (p ++ "." ++ q).toList = p.toList ++ '.' :: q.toList := by
    intro p q
    simp
  refine ⟨fun c p q => ?_, fun p q path => ?_, fun text path h => ?_,
    fun doc node steps h hne hdot hfits => ?_⟩
  · unfold Container.resolve
    rw [htext]
    exact resolve_append (segments_append _ _) (segments_ne_nil _) (segments_ne_nil _) c
  · rw [htext]
    exact parse_append
  · rw [Path.text, (parse_eq_ok.1 h).chars, String.ofList_toList]
  · unfold Container.resolve
    rw [String.toList_ofList, resolve_eq_follow (segments_ne_nil _), segments_address hne hdot]
    exact h.follow hfits

/-- A key that is a position elsewhere, a position with a zero in front of it, a key too large for a
position, and the empty key. -/
def shelf : Json :=
  .object [("0", .array (List.replicate 12 .null ++
    [.object [("18446744073709551616", .object [("", .bool true)])]]))]

def shelfSteps : List Step :=
  [.member "0", .item 1 12, .member "18446744073709551616", .member ""]

theorem texts_address_nodes_shelf : Leads shelf shelfSteps (.bool true) ∧
    (Container.ofJson shelf).resolve "0.012.18446744073709551616." = some (.bool true) ∧
    parse "a.0".toList = .ok ⟨[.key "a", .index 0 "0"]⟩ ∧
    Path.text ⟨[.key "a", .index 0 "0"]⟩ = "a.0" := by
  have hleads : Leads shelf shelfSteps (.bool true) :=
    .member rfl (.item rfl (.member rfl (.member rfl (.here _))))
  have haddress : address shelfSteps = "0.012.18446744073709551616.".toList := by decide
  have hdot : ∀ key, .member key ∈ shelfSteps → '.' ∉ key.toList := by simp [shelfSteps]
  have hfits : ∀ zeros position : ℕ, .item zeros position ∈ shelfSteps →
      (position : ℤ) ≤ maxUInt64 := by
    simp [shelfSteps, maxUInt64]
  have hpath : parse "a.0".toList = .ok ⟨[.key "a", .index 0 "0"]⟩ := rfl
  obtain ⟨-, -, htext, hnode⟩ := texts_address_nodes
  have hfound := hnode shelf _ _ hleads (by simp [shelfSteps]) hdot hfits
  rw [haddress, String.ofList_toList] at hfound
  exact ⟨hleads, hfound, hpath, htext "a.0" _ hpath⟩

end Path

end Reshape

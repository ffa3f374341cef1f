import Reshape.Path
import Reshape.Proofs.Text

namespace Reshape

namespace Path

/-- A word that is a path with no empty part. -/
inductive Spells : List Char → Path → Prop where
  | parts {parts : List (List Char)} (nonempty : parts ≠ [])
      (whole : ∀ part ∈ parts, part ≠ [] ∧ '.' ∉ part) :
      Spells (Text.joinWith ['.'] parts) ⟨parts.map Segment.ofText⟩

theorem Spells.single {part : List Char} (hne : part ≠ []) (hdot : '.' ∉ part) :
    Spells part ⟨[Segment.ofText part]⟩ := by
  have hparts : ∀ p ∈ [part], p ≠ [] ∧ '.' ∉ p := by
    intro p hp
    rw [List.mem_singleton.1 hp]
    exact ⟨hne, hdot⟩
  exact .parts (List.cons_ne_nil part []) hparts

theorem Segment.text_ofText (part : List Char) : (Segment.ofText part).text.toList = part := by
  unfold Segment.ofText
  split
  · exact String.toList_ofList
  · exact String.toList_ofList

theorem Spells.chars {word : List Char} {path : Path} (h : Spells word path) :
    path.chars = word := by
  obtain @⟨parts, -, -⟩ := h
  have hparts : parts.map (fun part => (Segment.ofText part).text.toList) = parts :=
    (List.map_congr_left fun part _ => Segment.text_ofText part).trans parts.map_id'
  unfold Path.chars
  rw [List.map_map]
  exact congrArg (Text.joinWith ['.']) hparts

theorem emptyPart?_eq_none {parts : List (List Char)} :
    emptyPart? parts = none ↔ ∀ part ∈ parts, part ≠ [] := by
  induction parts with
  | nil => simp [emptyPart?]
  | cons part parts ih =>
    unfold emptyPart?
    by_cases h : part = []
    · simp [h]
    · simp [h, ih]

theorem joinWith_ne_nil {parts : List (List Char)} (hne : parts ≠ [])
    (h : ∀ part ∈ parts, part ≠ []) : Text.joinWith ['.'] parts ≠ [] := by
  cases parts with
  | nil => exact absurd rfl hne
  | cons part parts =>
    have hpart : part ≠ [] := h part List.mem_cons_self
    cases parts with
    | nil => simpa [Text.joinWith] using hpart
    | cons => simp [Text.joinWith]

theorem parse_eq_ok {word : List Char} {path : Path} :
    parse word = .ok path ↔ Spells word path := by
  unfold parse
  constructor
  · intro h
    split at h
    · exact absurd h (by simp)
    · split at h
      · exact absurd h (by simp)
      · next hnone =>
        obtain rfl := Except.ok.inj h
        -- no part is empty, and none keeps a dot at which the word was divided
        have hs := Spells.parts (Text.splitBy_ne_nil (p := isDot) word) fun part hp =>
          ⟨emptyPart?_eq_none.1 hnone part hp, fun hdot =>
            absurd (Text.not_of_mem_splitBy hp '.' hdot) (by decide)⟩
        rwa [show Text.joinWith ['.'] (Text.splitBy isDot word) = word from
          Text.joinWith_splitBy '.' word] at hs
  · rintro @⟨parts, hne, hwhole⟩
    have hsplit : Text.splitBy isDot (Text.joinWith ['.'] parts) = parts :=
      Text.splitBy_joinWith hne fun part hp => (hwhole part hp).2
    have hnone : emptyPart? parts = none :=
      emptyPart?_eq_none.2 fun part hp => (hwhole part hp).1
    have hempty := joinWith_ne_nil hne fun part hp => (hwhole part hp).1
    unfold splitAtDots
    rw [if_neg (by simpa using hempty), hsplit, hnone]

/-- Where in the word `before ++ place` a fault of a path is. A part that is empty is the first
such: a path and a dot stand before it, unless it is in front. -/
def Fault.StandsAt (before place : List Char) : Fault → Prop
  | .emptyPath => before = [] ∧ place = []
  | .emptySegment => before ++ place ≠ [] ∧
      (before = [] ∨ ∃ front path, Spells front path ∧ before = front ++ ['.']) ∧
      (place = [] ∨ place.head? = some '.')

theorem emptyPart?_eq_some {parts : List (List Char)} {place : List Char}
    (h : emptyPart? parts = some place) : ∃ before behind, parts = before ++ [] :: behind ∧
      (∀ part ∈ before, part ≠ []) ∧ place = Text.joinWith ['.'] ([] :: behind) := by
  induction parts with
  | nil => exact absurd h (by simp [emptyPart?])
  | cons part parts ih =>
    unfold emptyPart? at h
    by_cases hpart : part = []
    · subst hpart
      exact ⟨[], parts, rfl, by simp, (Option.some.inj h).symm⟩
    · obtain ⟨before, behind, rfl, hbefore, hplace⟩ := ih (by simpa [hpart] using h)
      exact ⟨part :: before, behind, rfl, List.forall_mem_cons.2 ⟨hpart, hbefore⟩, hplace⟩

theorem joinWith_nil_cons (behind : List (List Char)) :
    Text.joinWith ['.'] ([] :: behind) = [] ∨
      (Text.joinWith ['.'] ([] :: behind)).head? = some '.' := by
  cases behind with
  | nil => exact .inl rfl
  | cons => exact .inr rfl

theorem standsAt_of_parse {word place : List Char} {fault : Fault}
    (h : parse word = .error (fault, place)) :
    ∃ before, word = before ++ place ∧ fault.StandsAt before place := by
  unfold parse at h
  split at h
  · next hempty =>
    obtain ⟨rfl, rfl⟩ := Prod.mk.inj (Except.error.inj h)
    exact ⟨[], rfl, rfl, List.isEmpty_iff.1 hempty⟩
  · next hne =>
    split at h
    · next found hfound =>
      obtain ⟨rfl, rfl⟩ := Prod.mk.inj (Except.error.inj h)
      obtain ⟨before, behind, hparts, hbefore, rfl⟩ := emptyPart?_eq_some hfound
      have hword : Text.joinWith ['.'] (before ++ [] :: behind) = word :=
        (congrArg _ hparts.symm).trans (Text.joinWith_splitBy '.' word)
      have hsome : word ≠ [] := by simpa using hne
      by_cases hfirst : before = []
      · subst hfirst
        exact ⟨[], hword.symm, hword ▸ hsome, .inl rfl, joinWith_nil_cons behind⟩
      · -- the parts before the empty one are a path
        have hspells := Spells.parts hfirst fun part hp => ⟨hbefore part hp, fun hdot =>
          absurd (Text.not_of_mem_splitBy (hparts ▸ List.mem_append_left _ hp) '.' hdot)
            (by decide)⟩
        rw [Text.joinWith_append hfirst (List.cons_ne_nil _ _)] at hword
        exact ⟨_, hword.symm, hword ▸ hsome, .inr ⟨_, _, hspells, rfl⟩, joinWith_nil_cons behind⟩
    · exact absurd h (by simp)

def only (value : Json) : List Segment → Json
  | [] => value
  | segment :: segments => .object [(segment.text, only value segments)]

theorem Segment.lookup_only (segment : Segment) (value : Json) :
    segment.lookup (Container.ofJson (.object [(segment.text, value)])) = some value := by
  have hget : Json.Members.get? [(segment.text, value)] segment.text = some value := by
    simp [Json.Members.get?]
  cases segment with
  | key name => exact hget
  | index position digits => exact hget

theorem follow_only (value : Json) (segments : List Segment) :
    follow segments (only value segments) = some value := by
  induction segments with
  | nil => rfl
  | cons segment segments ih =>
    rw [follow, only, segment.lookup_only]
    exact ih

theorem Spells.resolve_only {word : List Char} {path : Path} (h : Spells word path)
    (value : Json) : path.resolve (Container.ofJson (only value path.segments)) = some value := by
  obtain @⟨parts, hne, -⟩ := h
  cases parts with
  | nil => exact absurd rfl hne
  | cons part parts =>
    simp only [resolve, List.map_cons, only, Segment.lookup_only]
    exact follow_only value _

end Path

end Reshape

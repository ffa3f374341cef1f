import Reshape.Proofs.Plan.Appended

namespace Reshape

namespace Filter

/-- What a filter may do once its arguments are given: it refuses every value for one cause, or it
changes every value in one way. -/
inductive Uniform (p : (Json → Json) → Prop) (run : Json → Except Failure Json) : Prop where
  | refuses (cause : Failure) (h : ∀ value, run value = .error cause)
  | changes (change : Json → Json) (hchange : p change)
      (h : ∀ value, run value = .ok (change value))

/-- What is found out before the value is looked at is found out for every value. -/
theorem Uniform.bind {p : (Json → Json) → Prop} {α : Type} (x : Except Failure α)
    {run : α → Json → Except Failure Json} (h : ∀ a, Uniform p (run a)) :
    Uniform p fun value => x >>= (run · value) := by
  cases x with
  | error cause => exact .refuses cause fun _ => rfl
  | ok a => exact h a

/-- Changes of texts of a kind, which take numbers for their texts or leave them alone. -/
inductive OnTexts (p : (List Char → List Char) → Prop) : Bool → (Json → Json) → Prop where
  | strings {f : List Char → List Char} (h : p f) : OnTexts p false (onString f)
  | numbers {f : List Char → List Char} (h : p f) : OnTexts p true (onText f)

variable {p q : (List Char → List Char) → Prop} {rendersNumbers : Bool}

theorem Uniform.onTexts {run : Json → Except Failure Json}
    (h : Uniform (OnTexts p rendersNumbers) run) (himp : ∀ f, p f → q f) :
    Uniform (OnTexts q rendersNumbers) run := by
  cases h with
  | refuses cause h => exact .refuses cause h
  | changes change hchange h =>
    refine .changes change ?_ h
    cases hchange with
    | strings hf => exact .strings (himp _ hf)
    | numbers hf => exact .numbers (himp _ hf)

theorem uniform_plain {f : List Char → List Char} (h : p f) (arguments : List Json) :
    Uniform (OnTexts p false) (plain (onString f) · arguments) :=
  .changes _ (.strings h) fun _ => rfl

theorem uniform_trim (arguments : List Json) :
    Uniform (OnTexts (fun f => ∃ set, f = Text.trimBy set) false) (trim · arguments) := by
  unfold trim
  cases text? arguments 0 with
  | none => exact .changes _ (.strings ⟨Text.isBlank, rfl⟩) fun _ => rfl
  | some set => exact .changes _ (.strings ⟨set.contains, rfl⟩) fun _ => rfl

theorem uniform_replace (arguments : List Json) :
    Uniform (OnTexts (fun f => ∃ m mark other, f = Text.replaceEach m mark other) false)
      (replace · arguments) := by
  refine .bind _ fun mark => ?_
  cases mark with
  | nil => exact .refuses .emptySearch fun _ => rfl
  | cons m mark => exact .changes _ (.strings ⟨m, mark, _, rfl⟩) fun _ => rfl

theorem uniform_regexReplace (arguments : List Json) :
    Uniform (OnTexts (fun f => ∃ (pattern : Pattern) (replacement : List Char),
      f = pattern.replaceAll replacement) false) (regexReplace · arguments) := by
  refine .bind _ fun text => ?_
  cases Pattern.ofText? text with
  | none => exact .refuses (.invalidPattern (String.ofList text)) fun _ => rfl
  | some pattern => exact .changes _ (.strings ⟨pattern, _, rfl⟩) fun _ => rfl

theorem uniform_substr (arguments : List Json) :
    Uniform (OnTexts (fun f => ∃ start length, (∀ n ∈ length, 0 ≤ n) ∧ f = slice start length)
      false) (substr · arguments) := by
  refine .bind _ fun start => .bind _ fun length => ?_
  cases length with
  | none => exact .changes _ (.strings ⟨_, none, by simp, rfl⟩) fun _ => rfl
  | some n =>
    by_cases hnegative : n < 0
    · exact .refuses .negativeLength fun _ => by simp [hnegative]; rfl
    · refine .changes _ (.strings ⟨start.getD 0, some n, by simpa using hnegative, rfl⟩) ?_
      exact fun _ => by simp [hnegative]; rfl

theorem uniform_limit (arguments : List Json) :
    Uniform (OnTexts (fun f => ∃ size mark, f = cut size mark) false) (limit · arguments) := by
  refine .bind _ fun size => ?_
  by_cases hnegative : size < 0
  · exact .refuses .negativeLimit fun _ => by simp [hnegative]; rfl
  · exact .changes _ (.strings ⟨size.toNat, _, rfl⟩) fun _ => by simp [hnegative]; rfl

theorem uniform_prepend (arguments : List Json) :
    Uniform (OnTexts (fun f => ∃ front, f = (front ++ ·)) true) (prepend · arguments) :=
  .bind _ fun front => .changes _ (.numbers ⟨front, rfl⟩) fun _ => rfl

theorem uniform_append (arguments : List Json) :
    Uniform (OnTexts (fun f => ∃ back, f = (· ++ back)) true) (append · arguments) :=
  .bind _ fun back => .changes _ (.numbers ⟨back, rfl⟩) fun _ => rfl

theorem uniform_padLeft (arguments : List Json) :
    Uniform (OnTexts (fun f => ∃ width fill, f = padded width fill) true)
      (padLeft · arguments) :=
  .bind _ fun width => .changes _ (.numbers ⟨width.toNat, _, rfl⟩) fun _ => rfl

def textual : List String :=
  ["trim", "ltrim", "rtrim", "lower", "upper", "ucfirst", "lcfirst", "ucwords", "snake", "camel",
    "kebab", "slug", "replace", "regex_replace", "substr", "limit", "prefix", "suffix", "pad_left"]

/-- Those that take a number for its text. -/
def rendering : List String := ["prefix", "suffix", "pad_left"]

theorem uniform_of_textual {name : String} (h : name ∈ textual) : ∃ filter,
    Registry.builtin.get name = .ok filter ∧ ∀ arguments,
      Uniform (OnTexts (fun _ => True) (rendering.contains name)) (filter · arguments) := by
  simp only [textual, List.mem_cons, List.not_mem_nil, or_false] at h
  rcases h with rfl | rfl | rfl | rfl | rfl | rfl | rfl | rfl | rfl | rfl | rfl | rfl | rfl | rfl |
    rfl | rfl | rfl | rfl | rfl
  · exact ⟨trim, rfl, fun arguments => (uniform_trim arguments).onTexts fun _ _ => trivial⟩
  · exact ⟨_, rfl, uniform_plain (f := Text.trimStart) trivial⟩
  · exact ⟨_, rfl, uniform_plain (f := Text.trimEnd) trivial⟩
  · exact ⟨_, rfl, uniform_plain (f := Text.lower) trivial⟩
  · exact ⟨_, rfl, uniform_plain (f := Text.upper) trivial⟩
  · exact ⟨_, rfl, uniform_plain (f := Words.upperFirst) trivial⟩
  · exact ⟨_, rfl, uniform_plain (f := Words.lowerFirst) trivial⟩
  · exact ⟨_, rfl, uniform_plain (f := Words.title) trivial⟩
  · exact ⟨_, rfl, uniform_plain (f := Words.snake) trivial⟩
  · exact ⟨_, rfl, uniform_plain (f := Words.camel) trivial⟩
  · exact ⟨_, rfl, uniform_plain (f := Words.kebab) trivial⟩
  · exact ⟨_, rfl, uniform_plain (f := Words.slug) trivial⟩
  · exact ⟨replace, rfl, fun arguments => (uniform_replace arguments).onTexts fun _ _ => trivial⟩
  · exact ⟨regexReplace, rfl, fun arguments =>
      (uniform_regexReplace arguments).onTexts fun _ _ => trivial⟩
  · exact ⟨substr, rfl, fun arguments => (uniform_substr arguments).onTexts fun _ _ => trivial⟩
  · exact ⟨limit, rfl, fun arguments => (uniform_limit arguments).onTexts fun _ _ => trivial⟩
  · exact ⟨prepend, rfl, fun arguments => (uniform_prepend arguments).onTexts fun _ _ => trivial⟩
  · exact ⟨append, rfl, fun arguments => (uniform_append arguments).onTexts fun _ _ => trivial⟩
  · exact ⟨padLeft, rfl, fun arguments => (uniform_padLeft arguments).onTexts fun _ _ => trivial⟩

/-- What text may become, and a number, and anything else. -/
def Fits (rendersNumbers : Bool) (value result : Json) : Prop :=
  match value with
  | .string _ => ∃ t, result = .string t
  | .number _ => if rendersNumbers then ∃ t, result = .string t else result = value
  | _ => result = value

theorem fits_of_onTexts {change : Json → Json} (h : OnTexts p rendersNumbers change)
    (value : Json) : Fits rendersNumbers value (change value) := by
  cases h with
  | strings => cases value <;> simp [Fits, onString]
  | numbers => cases value <;> simp [Fits, onText]

end Filter

namespace Pipeline

open Reshape.Filter (Bound Fits Reference Registry rendering textual)

/-- Filters of which each refuses all values or none do so one behind another. -/
theorem run_uniform {p : (Json → Json) → Prop} {bounds : List Bound}
    (h : ∀ b ∈ bounds, Filter.Uniform p (b.run · b.reference.arguments)) (field : String) :
    (∃ error, ∀ value, run field bounds value = .error error) ∨
      ∀ value, ∃ result, run field bounds value = .ok result := by
  -- both sides are about all values, and so about what the first filter makes of them
  induction bounds with
  | nil => exact .inr fun value => ⟨value, rfl⟩
  | cons bound bounds ih =>
    cases h bound List.mem_cons_self with
    | refuses cause hrefuses =>
      refine .inl ⟨.filterFailed field bound.reference.name cause, fun value => ?_⟩
      rw [run, Bound.apply, hrefuses]
    | changes change _ hchanges =>
      have hstep : ∀ value, run field (bound :: bounds) value = run field bounds (change value) :=
        fun value => by rw [run, Bound.apply, hchanges]
      have hrest := ih fun other hother => h other (List.mem_cons_of_mem _ hother)
      rcases hrest with ⟨error, hall⟩ | hall
      · exact .inl ⟨error, fun value => (hstep value).trans (hall _)⟩
      · exact .inr fun value => (hall (change value)).imp fun _ hresult =>
          (hstep value).trans hresult

end Pipeline

namespace Filter

/-- Whether a filter on text succeeds is settled by its arguments, and what it makes of a value is
of the kind of the value, but for the three filters that make text of numbers. So a field's
pipeline of filters on text maps all values or refuses all with one error. -/
theorem texts_settled_by_arguments :
    (∀ name ∈ textual, ∃ filter, Registry.builtin.get name = .ok filter ∧ ∀ arguments,
      (∃ cause, ∀ value, filter value arguments = .error cause) ∨
        ∀ value, ∃ result, filter value arguments = .ok result ∧
          Fits (rendering.contains name) value result) ∧
    ∀ (registry : Registry) (references : List Reference) (bounds : List Bound),
      registry.bindAll references = .ok bounds →
      (∀ r ∈ references, r.name ∈ textual ∧
        registry.get r.name = Registry.builtin.get r.name) →
      ∀ field, (∃ error, ∀ value, Pipeline.run field bounds value = .error error) ∨
        ∀ value, ∃ result, Pipeline.run field bounds value = .ok result := by
  constructor
  · intro name hname
    obtain ⟨filter, hget, huniform⟩ := uniform_of_textual hname
    refine ⟨filter, hget, fun arguments => ?_⟩
    cases huniform arguments with
    | refuses cause h => exact .inl ⟨cause, h⟩
    | changes change hchange h =>
      exact .inr fun value => ⟨change value, h value, fits_of_onTexts hchange value⟩
  · intro registry references bounds hbounds hall field
    obtain ⟨hreferences, hfilters⟩ := Plan.binds_of_bindAll hbounds
    refine Pipeline.run_uniform (p := fun _ => True) (fun b hb => ?_) field
    obtain ⟨hname, hbuiltin⟩ := hall b.reference (hreferences ▸ List.mem_map_of_mem hb)
    obtain ⟨filter, hget, huniform⟩ := uniform_of_textual hname
    obtain rfl : filter = b.run :=
      Except.ok.inj (hget.symm.trans (hbuiltin.symm.trans (hfilters b hb)))
    cases huniform b.reference.arguments with
    | refuses cause h => exact .refuses cause h
    | changes change _ h => exact .changes change trivial h

/-- A filter that takes every value, and one whose arguments are not what it needs. -/
def clipped : List Reference := [⟨"trim", []⟩, ⟨"substr", [.ofInt 0, .ofInt (-1)]⟩]

/-- What shows on a value that is no text shows on all values. -/
theorem texts_settled_by_arguments_clipped : ∃ bounds,
    Registry.builtin.bindAll clipped = .ok bounds ∧
    (∀ r ∈ clipped, r.name ∈ textual) ∧
    Pipeline.run "f" bounds .null = .error (.filterFailed "f" "substr" .negativeLength) ∧
    ∀ value, Pipeline.run "f" bounds value =
      .error (.filterFailed "f" "substr" .negativeLength) := by
  obtain ⟨bounds, hbounds⟩ : ∃ bounds, Registry.builtin.bindAll clipped = .ok bounds := ⟨_, rfl⟩
  have hnames : ∀ r ∈ clipped, r.name ∈ textual := by decide
  have hnull : Pipeline.run "f" bounds .null =
      .error (.filterFailed "f" "substr" .negativeLength) := by
    obtain rfl := Except.ok.inj hbounds
    rfl
  refine ⟨bounds, hbounds, hnames, hnull, ?_⟩
  rcases texts_settled_by_arguments.2 .builtin clipped bounds hbounds
    (fun r hr => ⟨hnames r hr, rfl⟩) "f" with ⟨error, hall⟩ | hall
  · exact fun value => (hall value).trans ((hall .null).symm.trans hnull)
  · obtain ⟨result, hresult⟩ := hall .null
    exact absurd (hnull.symm.trans hresult) (by simp)

end Filter

end Reshape

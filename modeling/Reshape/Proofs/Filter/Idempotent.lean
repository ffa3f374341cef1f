import Reshape.Proofs.Filter.Uniform
import Reshape.Proofs.Words

namespace Reshape

namespace Filter

/-- What the filter gives, it gives again when it runs over that with the same arguments. -/
def Normalises (filter : Filter) : Prop :=
  ∀ arguments value result, filter value arguments = .ok result →
    filter result arguments = .ok result

theorem normalises_plain {f : Json → Json} (h : ∀ value, f (f value) = f value) :
    Normalises (plain f) := by
  intro arguments value result hresult
  obtain rfl := Except.ok.inj hresult
  exact congrArg Except.ok (h value)

theorem normalises_of_kept {filter : Filter} (p : Json → Prop)
    (hresults : ∀ arguments value result, filter value arguments = .ok result → p result)
    (hkept : ∀ arguments value, p value → filter value arguments = .ok value) :
    Normalises filter :=
  fun arguments value result h => hkept arguments result (hresults arguments value result h)

/-- A change of text that once is enough for. -/
def Once (f : List Char → List Char) : Prop := ∀ s, f (f s) = f s

variable {rendersNumbers : Bool}

/-- What a change of texts gives is text or stays as it is, so only what it does to text counts. -/
theorem OnTexts.once {change : Json → Json} (h : OnTexts Once rendersNumbers change)
    (value : Json) : change (change value) = change value := by
  cases h with
  | strings hf => cases value <;> simp [onString, hf _]
  | numbers hf => cases value <;> simp [onText, hf _]

theorem normalises_of_once {filter : Filter}
    (h : ∀ arguments, Uniform (OnTexts Once rendersNumbers) (filter · arguments)) :
    Normalises filter := by
  intro arguments value result hresult
  cases h arguments with
  | refuses cause hrefuses => exact absurd (hresult.symm.trans (hrefuses value)) (by simp)
  | changes change hchange hchanges =>
    obtain rfl : change value = result := Except.ok.inj ((hchanges value).symm.trans hresult)
    exact (hchanges _).trans (congrArg Except.ok (hchange.once value))

theorem once_trimStart : Once Text.trimStart := List.dropWhile_idempotent Text.isBlank

theorem once_trimEnd : Once Text.trimEnd := Text.trimEndBy_idempotent Text.isBlank

theorem once_cut (size : ℕ) (mark : List Char) : Once (cut size mark) := by
  intro s
  by_cases hfits : s.length ≤ size
  · have hcut : cut size mark s = s := if_pos hfits
    rw [hcut, hcut]
  · have hcut : cut size mark s = s.take size ++ mark := if_neg hfits
    have hsize : (s.take size).length = size := List.length_take_of_le (by omega)
    rw [hcut]
    -- behind an empty mark what was cut fits, behind any other it is cut in the same place
    by_cases hmark : mark = []
    · subst hmark
      exact if_pos (by simp [hsize])
    · have hlong : ¬(s.take size ++ mark).length ≤ size := by
        have hpos := List.length_pos_iff.2 hmark
        rw [List.length_append, hsize]
        omega
      rw [cut, if_neg hlong, List.take_left' hsize]

theorem padded_of_le {width : ℕ} {s : List Char} (h : width ≤ s.length) (fill : Char) :
    padded width fill s = s := by
  rw [padded, Nat.sub_eq_zero_of_le h]
  rfl

theorem once_padded (width : ℕ) (fill : Char) : Once (padded width fill) := by
  intro s
  refine padded_of_le ?_ fill
  rw [padded, List.length_append, List.length_replicate]
  omega

theorem normalises_trim : Normalises trim :=
  normalises_of_once fun arguments => (uniform_trim arguments).onTexts
    fun _ ⟨set, hf⟩ => hf ▸ Text.trimBy_idempotent set

theorem normalises_limit : Normalises limit :=
  normalises_of_once fun arguments => (uniform_limit arguments).onTexts
    fun _ ⟨size, mark, hf⟩ => hf ▸ once_cut size mark

theorem normalises_padLeft : Normalises padLeft :=
  normalises_of_once fun arguments => (uniform_padLeft arguments).onTexts
    fun _ ⟨width, fill, hf⟩ => hf ▸ once_padded width fill

theorem normalises_onString {f : List Char → List Char} (h : Once f) :
    Normalises (plain (onString f)) :=
  normalises_plain fun value => (OnTexts.strings h).once value

theorem inRange_eq_ok {f : Binary64} {n : ℤ} {result : Json} (h : inRange f n = .ok result) :
    ∃ m, result = .ofInt m := by
  unfold inRange at h
  split_ifs at h
  exact ⟨n, (Except.ok.inj h).symm⟩

theorem integerOfText_eq_ok {s : String} {result : Json} (h : integerOfText s = .ok result) :
    ∃ n, result = .ofInt n := by
  simp only [integerOfText] at h
  split at h
  · next n _ => exact ⟨n, (Except.ok.inj h).symm⟩
  · split at h
    · exact inRange_eq_ok (Outcome.mapError_eq_ok.1 h)
    · exact absurd h (by simp)

theorem normalises_toInteger : Normalises toInteger := by
  refine normalises_of_kept (fun result => result = .null ∨ ∃ n, result = .ofInt n) ?_ ?_
  · intro _ value result h
    cases value with
    | null => exact .inl (Except.ok.inj h).symm
    | bool b => exact .inr ⟨b.toNat, (Except.ok.inj h).symm⟩
    | number number => cases number with
      | whole n => exact .inr ⟨n, (Except.ok.inj h).symm⟩
      | float f => exact .inr (inRange_eq_ok h)
    | string s => exact .inr (integerOfText_eq_ok h)
    | array items => exact absurd h (by simp [toInteger])
    | object members => exact absurd h (by simp [toInteger])
  · rintro _ _ (rfl | ⟨n, rfl⟩) <;> rfl

theorem finite_eq_ok {f : Binary64} {result : Json} :
    finite f = .ok result ↔ f.isFinite = true ∧ .ofFloat f = result := by
  unfold finite
  split_ifs with hfinite <;> simp [hfinite]

/-- A float is tested before it is given, and stays the float that was tested. -/
theorem normalises_toFloat : Normalises toFloat := by
  refine normalises_of_kept
    (fun result => result = .null ∨ ∃ f, Binary64.isFinite f = true ∧ .ofFloat f = result) ?_ ?_
  · intro _ value result h
    cases value with
    | null => exact .inl (Except.ok.inj h).symm
    | bool b =>
      have hfinite : (Binary64.ofNat b.toNat).isFinite = true := by cases b <;> decide +kernel
      exact .inr ⟨_, hfinite, Except.ok.inj h⟩
    | number number => exact .inr ⟨_, finite_eq_ok.1 h⟩
    | string s =>
      simp only [toFloat] at h
      split at h
      · exact .inr ⟨_, finite_eq_ok.1 h⟩
      · exact absurd h (by simp)
    | array items => exact absurd h (by simp [toFloat])
    | object members => exact absurd h (by simp [toFloat])
  · rintro _ _ (rfl | ⟨f, hfinite, rfl⟩)
    · rfl
    · exact finite_eq_ok.2 ⟨hfinite, rfl⟩

theorem normalises_toBool : Normalises toBool := by
  refine normalises_of_kept (fun result => result = .null ∨ ∃ b, result = .bool b) ?_ ?_
  · intro _ value result h
    cases value with
    | null => exact .inl (Except.ok.inj h).symm
    | bool b => exact .inr ⟨b, (Except.ok.inj h).symm⟩
    | number number => exact .inr ⟨_, (Except.ok.inj h).symm⟩
    | string s =>
      simp only [toBool] at h
      split_ifs at h
      · exact .inr ⟨true, (Except.ok.inj h).symm⟩
      · exact .inr ⟨false, (Except.ok.inj h).symm⟩
    | array items => exact absurd h (by simp [toBool])
    | object members => exact absurd h (by simp [toBool])
  · rintro _ _ (rfl | ⟨b, rfl⟩) <;> rfl

theorem toText_toText (value : Json) : toText (toText value) = toText value := by
  cases value <;> simp [toText, rendered]

theorem nullify_nullify (value : Json) : nullify (nullify value) = nullify value := by
  cases value with
  | string s =>
    by_cases hblank : (Text.trim s.toList).isEmpty = true <;> simp [nullify, hblank]
  | _ => rfl

/-- Null is filled with the first argument, and stays null only if that is null. -/
theorem normalises_fillNull : Normalises fillNull := by
  intro arguments value result h
  obtain rfl := Except.ok.inj h
  cases value with
  | null => cases arguments with
    | nil => rfl
    | cons first arguments => cases first <;> rfl
  | _ => rfl

theorem normalises_split : Normalises split := by
  intro arguments value result h
  obtain rfl := Except.ok.inj h
  cases value with
  | string s => by_cases hempty : s.isEmpty = true <;> simp [split, hempty]
  | _ => rfl

theorem normalises_join : Normalises join := by
  intro arguments value result h
  obtain rfl := Except.ok.inj h
  cases value <;> rfl

def normalising : List String :=
  ["trim", "ltrim", "rtrim", "nullify", "limit", "pad_left", "slug", "split", "join", "string",
    "bool", "int", "float", "default"]

theorem normalises_of_normalising {name : String} (h : name ∈ normalising) :
    ∃ filter, Registry.builtin.get name = .ok filter ∧ Normalises filter := by
  simp only [normalising, List.mem_cons, List.not_mem_nil, or_false] at h
  rcases h with rfl | rfl | rfl | rfl | rfl | rfl | rfl | rfl | rfl | rfl | rfl | rfl | rfl | rfl
  · exact ⟨trim, rfl, normalises_trim⟩
  · exact ⟨_, rfl, normalises_onString once_trimStart⟩
  · exact ⟨_, rfl, normalises_onString once_trimEnd⟩
  · exact ⟨_, rfl, normalises_plain nullify_nullify⟩
  · exact ⟨limit, rfl, normalises_limit⟩
  · exact ⟨padLeft, rfl, normalises_padLeft⟩
  · exact ⟨_, rfl, normalises_onString Words.slug_slug⟩
  · exact ⟨split, rfl, normalises_split⟩
  · exact ⟨join, rfl, normalises_join⟩
  · exact ⟨_, rfl, normalises_plain toText_toText⟩
  · exact ⟨toBool, rfl, normalises_toBool⟩
  · exact ⟨toInteger, rfl, normalises_toInteger⟩
  · exact ⟨toFloat, rfl, normalises_toFloat⟩
  · exact ⟨fillNull, rfl, normalises_fillNull⟩

end Filter

/-- A filter that normalises gives behind itself what it gave. -/
theorem Pipeline.run_repeated {b : Filter.Bound} (h : Filter.Normalises b.run) (field : String)
    (front back : List Filter.Bound) (value : Json) :
    run field (front ++ b :: b :: back) value = run field (front ++ b :: back) value := by
  rw [run_append, run_append]
  cases run field front value with
  | error error => rfl
  | ok passed =>
    simp only [Except.bind, run, Filter.Bound.apply]
    cases hresult : b.run passed b.reference.arguments with
    | error cause => rfl
    | ok result => simp only [h _ _ _ hresult]

end Reshape

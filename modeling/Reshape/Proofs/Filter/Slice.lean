import Mathlib.Data.Int.Notation
import Mathlib.Data.Nat.Notation
import Reshape.Filter.Text

namespace Reshape.Filter

/-- An argument stands for a signed 64-bit integer: it is that number, or text that spells it. -/
inductive Denotes : Json → ℤ → Prop where
  | number {n : ℤ} (hmin : minInt64 ≤ n) (hmax : n ≤ maxInt64) : Denotes (.ofInt n) n
  | text {t : String} {n : ℤ} (h : readInt64? (Text.trim t.toList) = some n) :
    Denotes (.string t) n

namespace Denotes

variable {argument : Json} {n : ℤ}

theorem bounds (h : Denotes argument n) : minInt64 ≤ n ∧ n ≤ maxInt64 := by
  cases h with
  | number hmin hmax => exact ⟨hmin, hmax⟩
  | text h =>
    rw [readInt64?, Option.filter_eq_some_iff] at h
    simpa using h.2

theorem integer? (h : Denotes argument n) {arguments : List Json} {index : ℕ}
    (hindex : arguments[index]? = some argument) (filter : String) :
    Filter.integer? filter arguments index = .ok (some n) := by
  cases h with
  | number _ hmax =>
    rw [Filter.integer?, hindex]
    exact if_pos hmax
  | text h =>
    rw [Filter.integer?, hindex]
    simp only [h]

theorem integer (h : Denotes argument n) (arguments : List Json) (filter : String) :
    Filter.integer filter (argument :: arguments) 0 = .ok n := by
  rw [Filter.integer, h.integer? rfl]

end Denotes

/-- The character that fills a width: the first of the fill, a space where it has none. -/
inductive FillsWith : List Json → Char → Prop where
  | missing : FillsWith [] ' '
  | null : FillsWith [.null] ' '
  | empty : FillsWith [.string ""] ' '
  | first {t : String} {c : Char} (h : t.toList.head? = some c) : FillsWith [.string t] c

theorem FillsWith.eq {arguments : List Json} {c : Char} (h : FillsWith arguments c)
    (width : Json) : ((text? (width :: arguments) 1).bind List.head?).getD ' ' = c := by
  cases h with
  | missing => rfl
  | null => rfl
  | empty => rfl
  | first h => simp [text?, rendered, h]

theorem substr_of_denotes {start : Json} {i : ℤ} (h : Denotes start i) (s : String) :
    substr (.string s) [start] = .ok (.string (String.ofList (slice i none s.toList))) := by
  rw [substr, h.integer? rfl]
  rfl

theorem substr_of_denotes_of_denotes {start length : Json} {i l : ℤ} (h : Denotes start i)
    (hlength : Denotes length l) (s : String) : substr (.string s) [start, length] =
      if l < 0 then .error .negativeLength
      else .ok (.string (String.ofList (slice i (some l) s.toList))) := by
  rw [substr, h.integer? rfl, hlength.integer? rfl]
  by_cases hnegative : l < 0
  · simp [hnegative, bind, Except.bind, throw, throwThe, MonadExceptOf.throw]
  · simp [hnegative, bind, Except.bind, pure, Except.pure, onString]

theorem limit_of_denotes {size : Json} {m : ℕ} (h : Denotes size m) (s e : String) :
    limit (.string s) [size, .string e] =
      .ok (.string (String.ofList (cut m e.toList s.toList))) := by
  rw [limit, h.integer]
  rfl

theorem padLeft_of_denotes {width : Json} {w : ℤ} (h : Denotes width w) {fill : List Json}
    {c : Char} (hfill : FillsWith fill c) (s : String) : padLeft (.string s) (width :: fill) =
      .ok (.string (String.ofList (padded w.toNat c s.toList))) := by
  rw [padLeft, h.integer, ← hfill.eq width]
  rfl

/-- Where a slice starts: a negative start counts from the end, and the text is not left. -/
def sliceStart (start : ℤ) (size : ℕ) : ℕ :=
  if start < 0 then size - start.natAbs else min start.toNat size

theorem sliceStart_natCast (k size : ℕ) : sliceStart k size = min k size := by
  rw [sliceStart, if_neg (by omega), Int.toNat_natCast]

theorem sliceStart_neg {k : ℕ} (hk : 1 ≤ k) (size : ℕ) : sliceStart (-k) size = size - k := by
  rw [sliceStart, if_pos (by omega), Int.natAbs_neg, Int.natAbs_natCast]

section Slices

variable (start : ℤ) (s : List Char)

theorem slice_eq (length : Option ℤ) : slice start length s =
    (s.drop (sliceStart start s.length)).take
      (length.getD (s.length - sliceStart start s.length)).toNat := by
  have hstart : (if start < 0 then max (s.length + start) 0 else min start s.length) =
      (sliceStart start s.length : ℤ) := by
    unfold sliceStart
    split <;> omega
  rw [slice, hstart, Int.toNat_natCast]

theorem slice_none : slice start none s = s.drop (sliceStart start s.length) := by
  have hrest : (s.drop (sliceStart start s.length)).length ≤
      ((s.length : ℤ) - sliceStart start s.length).toNat := by
    rw [List.length_drop]
    omega
  rw [slice_eq, Option.getD_none, List.take_of_length_le hrest]

theorem slice_some (l : ℕ) : slice start (some (l : ℤ)) s = (slice start none s).take l := by
  rw [slice_eq, slice_none, Option.getD_some, Int.toNat_natCast]

end Slices

theorem ofList_take_append_drop (cs : List Char) (n : ℕ) :
    String.ofList (cs.take n) ++ String.ofList (cs.drop n) = String.ofList cs := by
  rw [← String.ofList_append, List.take_append_drop]

theorem take_append_drop (s : String) (n : ℕ) :
    String.ofList (s.toList.take n) ++ String.ofList (s.toList.drop n) = s := by
  rw [ofList_take_append_drop, String.ofList_toList]

theorem substr_append_substr {zero count : Json} {k : ℕ} (hzero : Denotes zero 0)
    (h : Denotes count k) (s : String) : ∃ front back,
      substr (.string s) [zero, count] = .ok (.string front) ∧
      substr (.string s) [count] = .ok (.string back) ∧
      front ++ back = s ∧ front.length = min k s.length := by
  have hfront : slice 0 (some k) s.toList = s.toList.take k := by
    rw [slice_some, slice_none]
    rfl
  have hback : slice k none s.toList = s.toList.drop k := by
    rw [slice_none, sliceStart_natCast]
    exact List.drop_eq_drop_iff.2 (by omega)
  refine ⟨String.ofList (s.toList.take k), String.ofList (s.toList.drop k), ?_, ?_,
    take_append_drop s k, ?_⟩
  · rw [substr_of_denotes_of_denotes hzero h, if_neg (by omega), hfront]
  · rw [substr_of_denotes h, hback]
  · rw [String.length_ofList, List.length_take, String.length_toList]

theorem substr_neg {count : Json} {k : ℕ} (hk : 1 ≤ k) (h : Denotes count (-k)) (s : String) :
    ∃ front back, substr (.string s) [count] = .ok (.string back) ∧
      front ++ back = s ∧ back.length = min k s.length := by
  refine ⟨_, String.ofList (s.toList.drop (s.length - k)), ?_,
    take_append_drop s (s.length - k), ?_⟩
  · rw [substr_of_denotes h, slice_none, sliceStart_neg hk, String.length_toList]
  · rw [String.length_ofList, List.length_drop, String.length_toList]
    omega

/-- A part of a text from any place on: the length that is asked for, or less at the end. -/
theorem substr_segment {start length : Json} {i : ℤ} {l : ℕ} (h : Denotes start i)
    (hlength : Denotes length l) (s : String) : ∃ before segment behind,
      substr (.string s) [start, length] = .ok (.string segment) ∧
      substr (.string s) [start] = .ok (.string (segment ++ behind)) ∧
      before ++ (segment ++ behind) = s ∧
      segment.length ≤ l ∧ (behind ≠ "" → segment.length = l) := by
  obtain ⟨rest, hrest⟩ : ∃ rest, rest = s.toList.drop (sliceStart i s.toList.length) := ⟨_, rfl⟩
  refine ⟨String.ofList (s.toList.take (sliceStart i s.toList.length)), String.ofList (rest.take l),
    String.ofList (rest.drop l), ?_, ?_, ?_, ?_, fun hbehind => ?_⟩
  · rw [substr_of_denotes_of_denotes h hlength, if_neg (by omega), slice_some, slice_none, hrest]
  · rw [substr_of_denotes h, slice_none, ofList_take_append_drop, hrest]
  · rw [ofList_take_append_drop, hrest, take_append_drop]
  · rw [String.length_ofList, List.length_take]
    omega
  · have hlong : l < rest.length := Nat.lt_of_not_le fun hshort =>
      hbehind (by rw [List.drop_eq_nil_of_le hshort, String.ofList_nil])
    rw [String.length_ofList, List.length_take]
    omega

theorem limit_exact {size : Json} {m : ℕ} (h : Denotes size m) (s e : String) : ∃ result,
    limit (.string s) [size, .string e] = .ok (.string result) ∧
    (s.length ≤ m → result = s) ∧
    (m < s.length → ∃ front back, front ++ back = s ∧ front.length = m ∧ result = front ++ e) := by
  refine ⟨_, limit_of_denotes h s e, fun hfits => ?_, fun hlong => ?_⟩
  · rw [cut, if_pos (by rwa [String.length_toList]), String.ofList_toList]
  · refine ⟨_, _, take_append_drop s m, ?_, ?_⟩
    · rw [String.length_ofList, List.length_take, String.length_toList]
      omega
    · rw [cut, if_neg (by rw [String.length_toList]; omega), String.ofList_append,
        String.ofList_toList]

theorem padLeft_exact {width : Json} {w : ℤ} (h : Denotes width w) {fill : List Json} {c : Char}
    (hfill : FillsWith fill c) (s : String) : ∃ padding,
      padLeft (.string s) (width :: fill) = .ok (.string (padding ++ s)) ∧
      ((padding ++ s).length : ℤ) = max (s.length : ℤ) w ∧ ∀ d ∈ padding.toList, d = c := by
  refine ⟨String.ofList (List.replicate (w.toNat - s.length) c), ?_, ?_, ?_⟩
  · rw [padLeft_of_denotes h hfill, padded, String.ofList_append, String.ofList_toList,
      String.length_toList]
  · rw [String.length_append, String.length_ofList, List.length_replicate]
    omega
  · intro d hd
    rw [String.toList_ofList] at hd
    exact List.eq_of_mem_replicate hd

def held? (n : ℤ) : Option ℤ := if minInt64 ≤ n ∧ n ≤ maxInt64 then some n else none

/-- A slice whose every count, sum and difference is held in a signed 64-bit integer. -/
def heldSlice? (start : ℤ) (length : Option ℤ) (s : List Char) : Option (List Char) := do
  let size ← held? s.length
  let first ← if start < 0 then (held? (size + start)).map (max · 0) else some (min start size)
  let rest ← held? (size - first)
  return (s.drop first.toNat).take (max (length.getD rest) 0).toNat

/-- A text that is filled up, with every count and difference held in a signed 64-bit integer, and
no difference below zero. -/
def heldPadded? (width : ℕ) (fill : Char) (s : List Char) : Option (List Char) := do
  let size ← held? s.length
  if width ≤ size then return s
  let missing ← (held? (width - size)).filter (0 ≤ ·)
  return List.replicate missing.toNat fill ++ s

theorem held?_eq_some {n : ℤ} (hmin : minInt64 ≤ n) (hmax : n ≤ maxInt64) : held? n = some n :=
  if_pos ⟨hmin, hmax⟩

section Held

variable {s : List Char} (hsize : (s.length : ℤ) ≤ maxInt64)

include hsize

theorem heldSlice?_eq {start : ℤ} (hmin : minInt64 ≤ start) (length : Option ℤ) :
    heldSlice? start length s = some (slice start length s) := by
  have hlow : minInt64 ≤ 0 := by decide
  have hcount : held? s.length = some (s.length : ℤ) := held?_eq_some (by omega) hsize
  have hclamp : ∀ n : ℤ, (max n 0).toNat = n.toNat := fun n => by omega
  -- a sum is taken of a negative start only, and brings it nearer to zero
  by_cases hnegative : start < 0
  · have hsum : held? (s.length + start) = some (s.length + start) :=
      held?_eq_some (by omega) (by omega)
    have hrest : held? (s.length - max (s.length + start) 0) =
        some (s.length - max (s.length + start) 0) := held?_eq_some (by omega) (by omega)
    simp [heldSlice?, slice, hcount, hnegative, hsum, hrest, hclamp]
  · have hrest : held? (s.length - min start s.length) = some (s.length - min start s.length) :=
      held?_eq_some (by omega) (by omega)
    simp [heldSlice?, slice, hcount, hnegative, hrest, hclamp]

theorem heldPadded?_eq {width : ℕ} (hwidth : (width : ℤ) ≤ maxInt64) (fill : Char) :
    heldPadded? width fill s = some (padded width fill s) := by
  have hlow : minInt64 ≤ 0 := by decide
  have hcount : held? s.length = some (s.length : ℤ) := held?_eq_some (by omega) hsize
  by_cases hwide : width ≤ s.length
  · simp [heldPadded?, padded, hcount, hwide]
  · have hmissing : (held? (width - s.length)).filter (0 ≤ ·) = some (width - s.length : ℤ) := by
      rw [held?_eq_some (by omega) (by omega)]
      exact Option.filter_eq_some_iff.2 ⟨rfl, by simp; omega⟩
    simp [heldPadded?, padded, hcount, hwide, hmissing]

end Held

/-- The filters that cut texts and fill them up, for all arguments that are signed 64-bit integers:
the first characters and the rest are the text, a negative start counts from the end, a length is
that of a part of the text and must not be negative, what is too long is cut and given an end, and
what is too short is filled up in front. No sum or difference on the way leaves 64 bits when the
number of characters does not. -/
theorem slices_exact (s : String) :
    (∀ (k : ℕ) (zero count : Json), Denotes zero 0 → Denotes count k → ∃ front back,
      substr (.string s) [zero, count] = .ok (.string front) ∧
      substr (.string s) [count] = .ok (.string back) ∧
      front ++ back = s ∧ front.length = min k s.length) ∧
    (∀ (k : ℕ) (count : Json), 1 ≤ k → Denotes count (-k) → ∃ front back,
      substr (.string s) [count] = .ok (.string back) ∧
      front ++ back = s ∧ back.length = min k s.length) ∧
    (∀ (start length : Json) (i l : ℤ), Denotes start i → Denotes length l → l < 0 →
      substr (.string s) [start, length] = .error .negativeLength) ∧
    (∀ (start length : Json) (i : ℤ) (l : ℕ), Denotes start i → Denotes length l →
      ∃ before segment behind,
        substr (.string s) [start, length] = .ok (.string segment) ∧
        substr (.string s) [start] = .ok (.string (segment ++ behind)) ∧
        before ++ (segment ++ behind) = s ∧
        segment.length ≤ l ∧ (behind ≠ "" → segment.length = l)) ∧
    (∀ (m : ℕ) (size : Json) (e : String), Denotes size m → ∃ result,
      limit (.string s) [size, .string e] = .ok (.string result) ∧
      (s.length ≤ m → result = s) ∧
      (m < s.length → ∃ front back, front ++ back = s ∧ front.length = m ∧ result = front ++ e)) ∧
    (∀ (w : ℤ) (width : Json) (fill : List Json) (c : Char), Denotes width w → FillsWith fill c →
      ∃ padding, padLeft (.string s) (width :: fill) = .ok (.string (padding ++ s)) ∧
        ((padding ++ s).length : ℤ) = max (s.length : ℤ) w ∧ ∀ d ∈ padding.toList, d = c) ∧
    ((s.length : ℤ) ≤ maxInt64 → ∀ (argument : Json) (n : ℤ), Denotes argument n →
      (∀ length, heldSlice? n length s.toList = some (slice n length s.toList)) ∧
      ∀ fill, heldPadded? n.toNat fill s.toList = some (padded n.toNat fill s.toList)) := by
  refine ⟨fun _ _ _ hzero h => substr_append_substr hzero h s, fun _ _ hk h => substr_neg hk h s,
    fun _ _ _ _ h hlength hnegative => ?_, fun _ _ _ _ h hlength => substr_segment h hlength s,
    fun _ _ e h => limit_exact h s e, fun _ _ _ _ h hfill => padLeft_exact h hfill s,
    fun hsize _ n h => ?_⟩
  · rw [substr_of_denotes_of_denotes h hlength, if_pos hnegative]
  · obtain ⟨hmin, hmax⟩ := h.bounds
    rw [← String.length_toList] at hsize
    -- a width below zero counts as zero
    have hwidth : (n.toNat : ℤ) ≤ maxInt64 := by
      have hlow : 0 ≤ maxInt64 := by decide
      omega
    exact ⟨heldSlice?_eq hsize hmin, heldPadded?_eq hsize hwidth⟩

/-- The least start that there is takes the whole text, and the least length is refused. -/
theorem slices_exact_limits :
    Denotes (.ofInt minInt64) (-(9223372036854775808 : ℕ)) ∧ Denotes (.string " 2 ") 2 ∧
    (∃ front back, substr (.string "día") [.ofInt 0, .string " 2 "] = .ok (.string front) ∧
      substr (.string "día") [.string " 2 "] = .ok (.string back) ∧
      front ++ back = "día" ∧ front.length = 2) ∧
    (∃ front back, substr (.string "día") [.ofInt minInt64] = .ok (.string back) ∧
      front ++ back = "día" ∧ back.length = 3) ∧
    substr (.string "día") [.ofInt maxInt64, .ofInt minInt64] = .error .negativeLength ∧
    (∃ padding, padLeft (.string "día") [.ofInt 5, .string ""] = .ok (.string (padding ++ "día")) ∧
      ((padding ++ "día").length : ℤ) = 5 ∧ ∀ d ∈ padding.toList, d = ' ') ∧
    heldSlice? minInt64 none "día".toList = some (slice minInt64 none "día".toList) := by
  have hleast : Denotes (.ofInt minInt64) (-(9223372036854775808 : ℕ)) :=
    .number (by decide) (by decide)
  have hspelled : Denotes (.string " 2 ") (2 : ℕ) := .text (by decide)
  have hgreatest : Denotes (.ofInt maxInt64) maxInt64 := .number (by decide) (by decide)
  obtain ⟨hparts, hlast, hnegative, -, -, hpadding, hheld⟩ := slices_exact "día"
  exact ⟨hleast, hspelled, hparts 2 _ _ (.number (by decide) (by decide)) hspelled,
    hlast _ _ (by decide) hleast, hnegative _ _ _ _ hgreatest hleast (by decide),
    hpadding 5 _ _ _ (.number (by decide) (by decide)) .empty,
    (hheld (by decide) _ _ hleast).1 none⟩

end Reshape.Filter

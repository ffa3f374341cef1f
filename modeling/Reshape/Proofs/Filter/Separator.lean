import Reshape.Filter.Collection
import Reshape.Filter.Text
import Reshape.Proofs.Text.Occurrences

namespace Reshape.Filter

open Text (Divided joinWith splitOn)

def ofParts (parts : List (List Char)) : Json := .array (parts.map (.string <| String.ofList ·))

theorem split_string (s : String) (arguments : List Json) : split (.string s) arguments =
    .ok (if s = "" then .array [] else ofParts (splitOn (separator arguments) s.toList)) := by
  by_cases hs : s = ""
  · simp [split, hs]
  · have hempty : s.isEmpty = false := by simpa using hs
    simp [split, ofParts, hs, hempty]

theorem join_ofParts (parts : List (List Char)) (arguments : List Json) :
    join (ofParts parts) arguments =
      .ok (.string (String.ofList (joinWith (separator arguments) parts))) := by
  have hparts : (parts.map (Json.string <| String.ofList ·)).map rendered = parts := by
    rw [List.map_map]
    exact (List.map_congr_left fun part _ => String.toList_ofList).trans (List.map_id' parts)
  rw [ofParts, join, hparts]

theorem join_nil (arguments : List Json) : join (.array []) arguments = .ok (.string "") := rfl

theorem replace_string (s : String) {a : String} {m : Char} {mark : List Char}
    (ha : a.toList = m :: mark) (b : String) : replace (.string s) [.string a, .string b] =
      .ok (.string (String.ofList (joinWith b.toList (Text.splitAround m mark s.toList)))) := by
  have htext : text "replace" [.string a, .string b] 0 = .ok (m :: mark) := by
    rw [← ha]
    rfl
  rw [replace, htext, ← Text.replaceEach_eq]
  rfl

/-- Joining the parts of a text with the separator that divided it gives the text back, whatever
the separator is: the comma where none is given, none at all, or any text. Replacing a text by
another is joining with the other what is divided at the first, and that is divided at its leftmost
occurrences that do not overlap. -/
theorem split_join_replace (s : String) :
    (∀ arguments, ∃ pieces, split (.string s) arguments = .ok pieces ∧
      join pieces arguments = .ok (.string s)) ∧
    ∀ a b : String, a ≠ "" → ∃ parts pieces result,
      Divided a.toList s.toList parts ∧
      pieces = (if s = "" then .array [] else ofParts parts) ∧
      split (.string s) [.string a] = .ok pieces ∧
      join pieces [.string b] = .ok (.string result) ∧
      replace (.string s) [.string a, .string b] = .ok (.string result) := by
  constructor
  · intro arguments
    refine ⟨_, split_string s arguments, ?_⟩
    by_cases hs : s = ""
    · rw [if_pos hs, hs, join_nil]
    · rw [if_neg hs, join_ofParts, Text.joinWith_splitOn, String.ofList_toList]
  · intro a b ha
    obtain ⟨m, mark, hmark⟩ : ∃ m mark, a.toList = m :: mark :=
      List.exists_cons_of_ne_nil (by simpa using ha)
    have hdivided : Divided a.toList s.toList (splitOn a.toList s.toList) := by
      rw [hmark]
      exact Text.divided_splitAround m mark s.toList
    refine ⟨_, _, String.ofList (joinWith b.toList (splitOn a.toList s.toList)), hdivided, rfl,
      split_string s _, ?_, ?_⟩
    · by_cases hs : s = ""
      · -- nothing is divided here, and the one part that there could be is empty
        subst hs
        rw [if_pos rfl, join_nil, hmark]
        simp [splitOn, Text.splitAround, joinWith]
      · rw [if_neg hs, join_ofParts]
        rfl
    · rw [replace_string s hmark, hmark]
      rfl

/-- Of two occurrences that overlap the left one is found. -/
theorem split_join_replace_overlapping :
    "aa" ≠ "" ∧ split (.string "aaa") [.string "aa"] = .ok (ofParts [[], ['a']]) ∧
    join (ofParts [[], ['a']]) [.string "b"] = .ok (.string "ba") ∧
    replace (.string "aaa") [.string "aa", .string "b"] = .ok (.string "ba") := by
  obtain ⟨parts, pieces, result, hdivided, hpieces, hsplit, hjoin, hreplace⟩ :=
    (split_join_replace "aaa").2 "aa" "b" (by decide)
  have hleft : Divided ['a', 'a'] (['a', 'a'] ++ ['a']) [[], ['a']] :=
    (Divided.whole (by decide)).occurs
  have hparts : parts = [[], ['a']] := hdivided.unique hleft
  obtain rfl : pieces = ofParts [[], ['a']] := by simpa [hparts] using hpieces
  obtain rfl : "ba" = result := by
    simpa [join_ofParts, separator, text?, rendered, joinWith] using hjoin
  exact ⟨by decide, hsplit, hjoin, hreplace⟩

end Reshape.Filter

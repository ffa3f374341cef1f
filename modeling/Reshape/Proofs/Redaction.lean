import Reshape.Proofs.Text
import Reshape.Redaction

namespace Reshape.Redaction

/-- A configured key occurs in the key, whatever the case of both. -/
def Sensitive (keys : List String) (key : String) : Prop :=
  ∃ k ∈ keys, Text.lower k.toList <:+: Text.lower key.toList

theorem isSensitive_iff {keys : List String} {key : String} :
    isSensitive keys key = true ↔ Sensitive keys key := by
  simp [isSensitive, Sensitive, Text.occursIn_iff]

mutual

/-- Values that are the same but for what stands under sensitive keys. -/
inductive SameOutside (keys : List String) : Json → Json → Prop
  | null : SameOutside keys .null .null
  | bool (b : Bool) : SameOutside keys (.bool b) (.bool b)
  | number (n : Json.Number) : SameOutside keys (.number n) (.number n)
  | string (s : String) : SameOutside keys (.string s) (.string s)
  | array {items others : List Json} (h : ItemsSame keys items others) :
    SameOutside keys (.array items) (.array others)
  | object {members others : Json.Members} (h : MembersSame keys members others) :
    SameOutside keys (.object members) (.object others)

inductive ItemsSame (keys : List String) : List Json → List Json → Prop
  | nil : ItemsSame keys [] []
  | cons {item other : Json} {items others : List Json} (h : SameOutside keys item other)
    (hrest : ItemsSame keys items others) : ItemsSame keys (item :: items) (other :: others)

inductive MembersSame (keys : List String) : Json.Members → Json.Members → Prop
  | nil : MembersSame keys [] []
  | masked {key : String} (value other : Json) {members others : Json.Members}
    (hkey : Sensitive keys key) (hrest : MembersSame keys members others) :
    MembersSame keys ((key, value) :: members) ((key, other) :: others)
  | kept {key : String} {value other : Json} {members others : Json.Members}
    (hkey : ¬Sensitive keys key) (h : SameOutside keys value other)
    (hrest : MembersSame keys members others) :
    MembersSame keys ((key, value) :: members) ((key, other) :: others)

end

/-- The value has a member of that key and value, at any depth. -/
inductive Holds : Json → String → Json → Prop
  | here {members : Json.Members} {key : String} {value : Json} (h : (key, value) ∈ members) :
    Holds (.object members) key value
  | inMember {members : Json.Members} {outer key : String} {inner value : Json}
    (hinner : (outer, inner) ∈ members) (h : Holds inner key value) :
    Holds (.object members) key value
  | inItem {items : List Json} {item value : Json} {key : String} (hitem : item ∈ items)
    (h : Holds item key value) : Holds (.array items) key value

variable {keys : List String}

theorem redactItems_eq_map (items : List Json) :
    redactItems keys items = items.map (redact keys) := by
  induction items with
  | nil => rfl
  | cons item items ih => rw [redactItems, ih, List.map_cons]

theorem redactMembers_eq_map (members : Json.Members) : redactMembers keys members =
    members.map fun (key, value) =>
      (key, if isSensitive keys key then mask else redact keys value) := by
  induction members with
  | nil => rfl
  | cons member members ih => rw [redactMembers, ih, List.map_cons]

theorem redactMembers_of_sensitive {key : String} (h : Sensitive keys key) (value : Json)
    (members : Json.Members) :
    redactMembers keys ((key, value) :: members) = (key, mask) :: redactMembers keys members := by
  rw [redactMembers, if_pos (isSensitive_iff.2 h)]

theorem redactMembers_of_not_sensitive {key : String} (h : ¬Sensitive keys key) (value : Json)
    (members : Json.Members) : redactMembers keys ((key, value) :: members) =
      (key, redact keys value) :: redactMembers keys members := by
  rw [redactMembers, if_neg (mt isSensitive_iff.1 h)]

/-- Members that are masked alike have the same first key, and behind it members that are. -/
theorem redactMembers_cons_eq {key : String} {value : Json} {members masked : Json.Members}
    (h : redactMembers keys ((key, value) :: members) = redactMembers keys masked) :
    ∃ other others, masked = (key, other) :: others ∧
      redactMembers keys members = redactMembers keys others ∧
      (¬Sensitive keys key → redact keys value = redact keys other) := by
  cases masked with
  | nil => exact absurd h (by simp [redactMembers])
  | cons entry others =>
    obtain ⟨key', other⟩ := entry
    simp only [redactMembers, List.cons.injEq, Prod.mk.injEq] at h
    obtain ⟨⟨rfl, hvalue⟩, hrest⟩ := h
    refine ⟨other, others, rfl, hrest, fun hkey => ?_⟩
    simpa [mt isSensitive_iff.1 hkey] using hvalue

mutual

/-- What stands under a sensitive key leaves no trace. -/
theorem redact_congr {v w : Json} (h : SameOutside keys v w) : redact keys v = redact keys w := by
  cases h with
  | null => rfl
  | bool b => rfl
  | number n => rfl
  | string s => rfl
  | array h => rw [redact, redact, redactItems_congr h]
  | object h => rw [redact, redact, redactMembers_congr h]

theorem redactItems_congr {items others : List Json} (h : ItemsSame keys items others) :
    redactItems keys items = redactItems keys others := by
  cases h with
  | nil => rfl
  | cons h hrest => rw [redactItems, redactItems, redact_congr h, redactItems_congr hrest]

theorem redactMembers_congr {members others : Json.Members} (h : MembersSame keys members others) :
    redactMembers keys members = redactMembers keys others := by
  cases h with
  | nil => rfl
  | masked value other hkey hrest =>
    rw [redactMembers_of_sensitive hkey, redactMembers_of_sensitive hkey,
      redactMembers_congr hrest]
  | kept hkey h hrest =>
    rw [redactMembers_of_not_sensitive hkey, redactMembers_of_not_sensitive hkey, redact_congr h,
      redactMembers_congr hrest]

end

/-- All that a masked value holds under a sensitive key is the mask, which holds nothing itself. -/
theorem eq_mask_of_holds {v value : Json} {key : String} (h : Holds (redact keys v) key value)
    (hkey : Sensitive keys key) : value = mask := by
  -- down from the masked value to the member, with the value before masking beside it
  generalize hw : redact keys v = w at h
  induction h generalizing v with
  | here hmem =>
    cases v with
    | object original =>
      rw [redact, Json.object.injEq, redactMembers_eq_map] at hw
      rw [← hw] at hmem
      obtain ⟨_, -, hentry⟩ := List.mem_map.1 hmem
      obtain ⟨rfl, rfl⟩ := Prod.mk.inj hentry
      exact if_pos (isSensitive_iff.2 hkey)
    | _ => exact absurd hw (by simp [redact])
  | inMember hmem hholds ih =>
    cases v with
    | object original =>
      rw [redact, Json.object.injEq, redactMembers_eq_map] at hw
      rw [← hw] at hmem
      obtain ⟨_, -, hentry⟩ := List.mem_map.1 hmem
      obtain ⟨rfl, hinner⟩ := Prod.mk.inj hentry
      split at hinner
      · -- nothing is held below a mask
        subst hinner
        nomatch hholds
      · exact ih hkey hinner
    | _ => exact absurd hw (by simp [redact])
  | inItem hmem hholds ih =>
    cases v with
    | array original =>
      rw [redact, Json.array.injEq, redactItems_eq_map] at hw
      rw [← hw] at hmem
      obtain ⟨below, -, hbelow⟩ := List.mem_map.1 hmem
      exact ih hkey hbelow
    | _ => exact absurd hw (by simp [redact])

mutual

theorem sameOutside_of_redact_eq {v w : Json} (h : redact keys v = redact keys w) :
    SameOutside keys v w := by
  -- masking keeps the kind of a value, so only equal kinds are left
  match v with
  | .array items =>
    cases w with
    | array others =>
      rw [redact, redact, Json.array.injEq] at h
      exact .array (itemsSame_of_redact_eq h)
    | _ => exact absurd h (by simp [redact])
  | .object members =>
    cases w with
    | object others =>
      rw [redact, redact, Json.object.injEq] at h
      exact .object (membersSame_of_redact_eq h)
    | _ => exact absurd h (by simp [redact])
  | .null =>
    cases w with
    | null => exact .null
    | _ => exact absurd h (by simp [redact])
  | .bool b =>
    cases w with
    | bool c =>
      obtain rfl : b = c := by simpa [redact] using h
      exact .bool b
    | _ => exact absurd h (by simp [redact])
  | .number n =>
    cases w with
    | number m =>
      obtain rfl : n = m := by simpa [redact] using h
      exact .number n
    | _ => exact absurd h (by simp [redact])
  | .string s =>
    cases w with
    | string t =>
      obtain rfl : s = t := by simpa [redact] using h
      exact .string s
    | _ => exact absurd h (by simp [redact])

theorem itemsSame_of_redact_eq {items others : List Json}
    (h : redactItems keys items = redactItems keys others) : ItemsSame keys items others := by
  match items with
  | [] =>
    cases others with
    | nil => exact .nil
    | cons other others => exact absurd h (by simp [redactItems])
  | item :: items =>
    cases others with
    | nil => exact absurd h (by simp [redactItems])
    | cons other others =>
      obtain ⟨hitem, hrest⟩ := List.cons.inj h
      exact .cons (sameOutside_of_redact_eq hitem) (itemsSame_of_redact_eq hrest)

theorem membersSame_of_redact_eq {members others : Json.Members}
    (h : redactMembers keys members = redactMembers keys others) :
    MembersSame keys members others := by
  match members with
  | [] =>
    cases others with
    | nil => exact .nil
    | cons other others => exact absurd h (by simp [redactMembers])
  | (key, value) :: members =>
    obtain ⟨other, others, rfl, hrest, hvalue⟩ := redactMembers_cons_eq h
    by_cases hkey : Sensitive keys key
    · exact .masked value other hkey (membersSame_of_redact_eq hrest)
    · exact .kept hkey (sameOutside_of_redact_eq (hvalue hkey)) (membersSame_of_redact_eq hrest)

end

mutual

theorem sameOutside_redact (v : Json) : SameOutside keys v (redact keys v) := by
  match v with
  | .null => exact .null
  | .bool b => exact .bool b
  | .number n => exact .number n
  | .string s => exact .string s
  | .array items => exact .array (itemsSame_redactItems items)
  | .object members => exact .object (membersSame_redactMembers members)

theorem itemsSame_redactItems (items : List Json) :
    ItemsSame keys items (redactItems keys items) := by
  match items with
  | [] => exact .nil
  | item :: items => exact .cons (sameOutside_redact item) (itemsSame_redactItems items)

theorem membersSame_redactMembers (members : Json.Members) :
    MembersSame keys members (redactMembers keys members) := by
  match members with
  | [] => exact .nil
  | (key, value) :: members =>
    have hrest := membersSame_redactMembers members
    by_cases hkey : Sensitive keys key
    · rw [redactMembers_of_sensitive hkey]
      exact .masked value mask hkey hrest
    · rw [redactMembers_of_not_sensitive hkey]
      exact .kept hkey (sameOutside_redact value) hrest

end

/-- Masking hides what stands under sensitive keys and nothing else. -/
theorem redaction_exact (keys : List String) :
    (∀ v w, redact keys v = redact keys w ↔ SameOutside keys v w) ∧
    (∀ v key value, Holds (redact keys v) key value → Sensitive keys key → value = mask) ∧
    (∀ v, SameOutside keys v (redact keys v)) ∧
    ∀ v, redact keys (redact keys v) = redact keys v := by
  refine ⟨fun v w => ⟨sameOutside_of_redact_eq, redact_congr⟩,
    fun v key value hholds hkey => eq_mask_of_holds hholds hkey, sameOutside_redact, fun v => ?_⟩
  exact (redact_congr (sameOutside_redact v)).symm

def secretKeys : List String := ["password", "Token"]

/-- A record with one secret in an object and another in an array. -/
def session (password token : Json) : Json := .object [
  ("user", .object [("name", .string "ada"), ("PASSWORD", password)]),
  ("sessions", .array [.object [("access_token", token), ("ip", .string "10.0.0.1")]])]

theorem redact_session (password token : Json) :
    redact secretKeys (session password token) = session mask mask := by
  have hmasked : ∀ key ∈ ["PASSWORD", "access_token"], isSensitive secretKeys key = true := by
    decide +kernel
  have hkept : ∀ key ∈ ["user", "name", "sessions", "ip"],
      isSensitive secretKeys key = false := by
    decide +kernel
  simp only [List.forall_mem_cons] at hmasked hkept
  simp only [session, redact, redactMembers, redactItems, hmasked, hkept, if_true,
    Bool.false_eq_true, if_false]

/-- Records with different secrets are masked alike, and the key in the array holds the mask. -/
theorem redaction_exact_session :
    redact secretKeys (session (.string "hunter2") .null) =
      redact secretKeys (session .null .null) ∧
    SameOutside secretKeys (session (.string "hunter2") .null) (session .null .null) ∧
    ∃ value, Holds (redact secretKeys (session (.string "hunter2") .null)) "access_token" value ∧
      Sensitive secretKeys "access_token" ∧ value = mask := by
  have hsame : redact secretKeys (session (.string "hunter2") .null) =
      redact secretKeys (session .null .null) := by
    rw [redact_session, redact_session]
  have htoken : Sensitive secretKeys "access_token" := isSensitive_iff.1 (by decide +kernel)
  have hholds : Holds (redact secretKeys (session (.string "hunter2") .null)) "access_token"
      mask := by
    rw [redact_session]
    exact .inMember (.tail _ (.head _)) (.inItem (.head _) (.here (.head _)))
  obtain ⟨hmasked, hmask, -, -⟩ := redaction_exact secretKeys
  exact ⟨hsame, (hmasked _ _).1 hsame, _, hholds, htoken, hmask _ _ _ hholds htoken⟩

end Reshape.Redaction

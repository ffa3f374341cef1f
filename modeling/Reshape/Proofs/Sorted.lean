import Reshape.Json.Value
import Reshape.Sorted

namespace Reshape

theorem find?_name_of_mem {α : Type} {name : α → String} {all : List α}
    (hd : (all.map name).Nodup) {a : α} (h : a ∈ all) :
    all.find? (fun b => name b == name a) = some a := by
  induction all with
  | nil => simp at h
  | cons first rest ih =>
    obtain ⟨hfirst, hrest⟩ := List.nodup_cons.1 hd
    rcases List.mem_cons.1 h with rfl | h
    · simp
    · have hne : name first ≠ name a := fun he => hfirst (he ▸ List.mem_map_of_mem h)
      rw [List.find?_cons_of_neg (by simpa using hne)]
      exact ih hrest h

/-- The names differ from each other and from those that were seen before. -/
def Fresh (seen names : List String) : Prop := names.Nodup ∧ ∀ name ∈ names, name ∉ seen

@[simp] theorem fresh_nil (seen : List String) : Fresh seen [] := by simp [Fresh]

theorem fresh_iff_nodup {names : List String} : Fresh [] names ↔ names.Nodup := by simp [Fresh]

/-- One step of a scan: the first name is new, and the others are once it was seen. -/
theorem fresh_cons {seen names : List String} {name : String} :
    Fresh seen (name :: names) ↔ name ∉ seen ∧ Fresh (name :: seen) names := by
  unfold Fresh
  rw [List.nodup_cons, List.forall_mem_cons]
  constructor
  · rintro ⟨⟨hfirst, hdiffer⟩, hnew, hlater⟩
    refine ⟨hnew, hdiffer, fun other hother hm => ?_⟩
    rcases List.mem_cons.1 hm with rfl | hm
    · exact hfirst hother
    · exact hlater other hother hm
  · rintro ⟨hnew, hdiffer, hlater⟩
    have hfirst : name ∉ names := fun hm => hlater name hm List.mem_cons_self
    exact ⟨⟨hfirst, hdiffer⟩, hnew, fun other ho hm => hlater other ho (List.mem_cons_of_mem _ hm)⟩

theorem fresh_congr {seen seen' names : List String} (h : ∀ name, name ∈ seen ↔ name ∈ seen') :
    Fresh seen names ↔ Fresh seen' names := by
  unfold Fresh
  simp only [h]

end Reshape

namespace Reshape.Sorted

variable {α : Type}

@[simp] theorem get?_nil (key : String) : get? ([] : Sorted α) key = none := rfl

theorem get?_cons (k : String) (v : α) (rest : Sorted α) (key : String) :
    get? ((k, v) :: rest) key = if key = k then some v else get? rest key := by
  unfold get?
  by_cases h : key = k
  · subst h
    simp
  · have hb : (key == k) = false := by simpa using h
    simp [List.lookup_cons, hb, h]

theorem mem_of_get? {entries : Sorted α} {key : String} {value : α}
    (h : entries.get? key = some value) : (key, value) ∈ entries := by
  obtain ⟨before, behind, rfl, -⟩ := List.lookup_eq_some_iff.1 h
  simp

theorem get?_eq_none {entries : Sorted α} {key : String} :
    entries.get? key = none ↔ key ∉ entries.keys := by
  unfold get? keys
  rw [List.lookup_eq_none_iff]
  constructor
  · intro h hk
    obtain ⟨entry, he, rfl⟩ := List.mem_map.1 hk
    simpa using h entry he
  · intro h entry he
    have hne : key ≠ entry.1 := fun hk => h (hk ▸ List.mem_map_of_mem he)
    simpa using hne

theorem mem_keys {entries : Sorted α} {key : String} :
    key ∈ entries.keys ↔ (entries.get? key).isSome = true := by
  rw [Option.isSome_iff_ne_none, ne_eq, get?_eq_none, Decidable.not_not]

theorem get?_of_mem {entries : Sorted α} (hd : entries.keys.Nodup) {key : String} {value : α}
    (h : (key, value) ∈ entries) : entries.get? key = some value := by
  induction entries with
  | nil => simp at h
  | cons entry rest ih =>
    obtain ⟨k, v⟩ := entry
    obtain ⟨hk, hrest⟩ := List.nodup_cons.1 (show (k :: keys rest).Nodup from hd)
    rw [get?_cons]
    rcases List.mem_cons.1 h with he | h
    · obtain ⟨rfl, rfl⟩ := Prod.mk.inj he
      rw [if_pos rfl]
    · have hne : key ≠ k := fun he => hk (he ▸ List.mem_map_of_mem h)
      rw [if_neg hne, ih hrest h]

/-- No order of the entries is needed: the entry that `adjust` writes stands before every other
entry of its key. -/
theorem get?_adjust_self (key : String) (f : Option α → α) (entries : Sorted α) :
    ∃ old, get? (adjust key f entries) key = some (f old) := by
  induction entries with
  | nil => exact ⟨none, by simp [adjust, get?_cons]⟩
  | cons entry rest ih =>
    obtain ⟨k, v⟩ := entry
    unfold adjust
    split
    · exact ⟨none, by simp [get?_cons]⟩
    · split
      · next hk => exact ⟨some v, by simp [get?_cons, hk]⟩
      · next hk =>
        obtain ⟨old, ho⟩ := ih
        exact ⟨old, by rw [get?_cons, if_neg hk, ho]⟩

theorem get?_adjust_of_ne {key other : String} (h : other ≠ key) (f : Option α → α)
    (entries : Sorted α) : get? (adjust key f entries) other = get? entries other := by
  induction entries with
  | nil => simp [adjust, get?_cons, h]
  | cons entry rest ih =>
    obtain ⟨k, v⟩ := entry
    unfold adjust
    split
    · rw [get?_cons, if_neg h]
    · split
      · next hk =>
        have hne : other ≠ k := hk ▸ h
        simp only [get?_cons, if_neg hne]
      · simp only [get?_cons, ih]

@[simp] theorem get?_insert_self (entries : Sorted α) (key : String) (value : α) :
    (entries.insert key value).get? key = some value := by
  obtain ⟨_, h⟩ := get?_adjust_self key (fun _ => value) entries
  exact h

theorem get?_insert_of_ne {key other : String} (h : other ≠ key) (entries : Sorted α)
    (value : α) : (entries.insert key value).get? other = entries.get? other :=
  get?_adjust_of_ne h _ entries

theorem mem_keys_insert {entries : Sorted α} {key : String} {value : α} {other : String} :
    other ∈ (entries.insert key value).keys ↔ other = key ∨ other ∈ entries.keys := by
  rw [mem_keys, mem_keys]
  by_cases h : other = key
  · subst h
    simp
  · simp [h, get?_insert_of_ne h]

theorem mem_keys_insertAll {entries : Sorted α} {others : List (String × α)} {key : String} :
    key ∈ (entries.insertAll others).keys ↔ key ∈ others.map Prod.fst ∨ key ∈ entries.keys := by
  unfold insertAll
  induction others generalizing entries with
  | nil => simp
  | cons entry rest ih =>
    rw [List.foldl_cons, ih, mem_keys_insert, List.map_cons, List.mem_cons, or_left_comm, or_assoc]

/-- The upper entries need one value a key, since of two the later one would win. -/
theorem get?_insertAll (entries : Sorted α) {others : Sorted α} (hd : others.keys.Nodup)
    (key : String) :
    (entries.insertAll others).get? key = (others.get? key).or (entries.get? key) := by
  unfold insertAll
  induction others generalizing entries with
  | nil => simp
  | cons entry rest ih =>
    obtain ⟨k, v⟩ := entry
    obtain ⟨hk, hrest⟩ := List.nodup_cons.1 (show (k :: keys rest).Nodup from hd)
    rw [List.foldl_cons, ih _ hrest, get?_cons]
    -- no later entry has the key of this one, so its value stays
    by_cases h : key = k
    · subst h
      simp [get?_eq_none.2 hk]
    · rw [get?_insert_of_ne h, if_neg h]

theorem mem_insert {entries : Sorted α} {key : String} {value : α} {entry : String × α}
    (h : entry ∈ entries.insert key value) : entry = (key, value) ∨ entry ∈ entries := by
  unfold insert at h
  induction entries with
  | nil => simpa [adjust] using h
  | cons first rest ih =>
    obtain ⟨k, v⟩ := first
    unfold adjust at h
    split at h
    · simpa using h
    · split at h
      · next hk =>
        subst hk
        rcases List.mem_cons.1 h with rfl | h
        · exact .inl rfl
        · exact .inr (List.mem_cons_of_mem _ h)
      · rcases List.mem_cons.1 h with rfl | h
        · exact .inr (by simp)
        · exact (ih h).imp_right (List.mem_cons_of_mem _)

/-- Every key stands before all greater ones, and none stands there twice. -/
def Ordered (entries : Sorted α) : Prop := entries.keys.Pairwise (· < ·)

instance (entries : Sorted α) : Decidable entries.Ordered :=
  inferInstanceAs (Decidable (entries.keys.Pairwise (· < ·)))

theorem mem_keys_adjust {key : String} {f : Option α → α} {entries : Sorted α} {k : String}
    (h : k ∈ keys (adjust key f entries)) : k = key ∨ k ∈ entries.keys := by
  induction entries with
  | nil => simpa [adjust, keys] using h
  | cons entry rest ih =>
    obtain ⟨first, value⟩ := entry
    unfold adjust at h
    split at h
    · simpa [keys] using h
    · split at h
      · next hk =>
        subst hk
        exact .inr h
      · rcases List.mem_cons.1 h with rfl | h
        · exact .inr List.mem_cons_self
        · exact (ih h).imp_right (List.mem_cons_of_mem _)

theorem Ordered.adjust {entries : Sorted α} (h : entries.Ordered) (key : String)
    (f : Option α → α) : Ordered (entries.adjust key f) := by
  induction entries with
  | nil => exact List.pairwise_singleton _ _
  | cons entry rest ih =>
    obtain ⟨k, v⟩ := entry
    obtain ⟨hk, hrest⟩ := List.pairwise_cons.1 (show (k :: keys rest).Pairwise (· < ·) from h)
    unfold Sorted.adjust
    split
    · next hlt =>
      refine List.pairwise_cons.2 ⟨fun other hother => ?_, h⟩
      rcases List.mem_cons.1 hother with rfl | hother
      · exact hlt
      · exact String.lt_trans hlt (hk other hother)
    · split
      · exact h
      · next hge hne =>
        have hlt : k < key := Std.lt_of_le_of_ne (String.not_lt.1 hge) (Ne.symm hne)
        refine List.pairwise_cons.2 ⟨fun other hother => ?_, ih hrest⟩
        rcases mem_keys_adjust hother with rfl | hother
        · exact hlt
        · exact hk other hother

theorem Ordered.nodup_keys {entries : Sorted α} (h : entries.Ordered) : entries.keys.Nodup := by
  refine List.Pairwise.imp (fun {a b} hlt => ?_) (show entries.keys.Pairwise (· < ·) from h)
  rintro rfl
  exact String.lt_irrefl a hlt

theorem nodup_of_nodup_keys {entries : Sorted α} (h : entries.keys.Nodup) : entries.Nodup :=
  (List.pairwise_map.1 h).imp fun hne heq => hne (congrArg Prod.fst heq)

/-- Ordered entries are told by their look-ups. -/
theorem Ordered.ext {entries others : Sorted α} (h : entries.Ordered) (h' : others.Ordered)
    (hget : ∀ key, entries.get? key = others.get? key) : entries = others := by
  have hmem : ∀ entry : String × α, entry ∈ entries ↔ entry ∈ others := by
    intro entry
    constructor
    · exact fun hm => mem_of_get? (hget entry.1 ▸ get?_of_mem h.nodup_keys hm)
    · exact fun hm => mem_of_get? (hget entry.1 ▸ get?_of_mem h'.nodup_keys hm)
  have hperm : entries.Perm others := (List.perm_ext_iff_of_nodup
    (nodup_of_nodup_keys h.nodup_keys) (nodup_of_nodup_keys h'.nodup_keys)).2 hmem
  have hlt : ∀ a b : String × α, a ∈ entries → b ∈ others → a.1 < b.1 → b.1 < a.1 → a = b :=
    fun a b _ _ hab hba => absurd hba (String.lt_asymm hab)
  exact hperm.eq_of_pairwise hlt (List.pairwise_map.1 h) (List.pairwise_map.1 h')

/-- Where the keys are ordered, a value is made of the one its key has. -/
theorem Ordered.get?_adjust_self {entries : Sorted α} (h : entries.Ordered) (key : String)
    (f : Option α → α) : get? (entries.adjust key f) key = some (f (entries.get? key)) := by
  induction entries with
  | nil => simp [Sorted.adjust, get?_cons]
  | cons entry rest ih =>
    obtain ⟨k, v⟩ := entry
    obtain ⟨hk, hrest⟩ := List.pairwise_cons.1 (show (k :: keys rest).Pairwise (· < ·) from h)
    unfold Sorted.adjust
    split
    · next hlt =>
      -- all keys are greater than the new one
      have hnone : get? ((k, v) :: rest) key = none := by
        refine get?_eq_none.2 fun hmem => ?_
        rcases List.mem_cons.1 hmem with rfl | hmem
        · exact String.lt_irrefl _ hlt
        · exact String.lt_irrefl _ (String.lt_trans hlt (hk key hmem))
      rw [get?_cons, if_pos rfl, hnone]
    · split
      · next hkey => rw [get?_cons, if_pos hkey, get?_cons, if_pos hkey]
      · next hkey => rw [get?_cons, if_neg hkey, get?_cons, if_neg hkey, ih hrest]

theorem Ordered.insertAll {entries : Sorted α} (h : entries.Ordered)
    (others : List (String × α)) : (entries.insertAll others).Ordered := by
  unfold Sorted.insertAll
  induction others generalizing entries with
  | nil => exact h
  | cons entry others ih => exact ih (h.adjust entry.1 _)

theorem insert_of_forall_lt {entries : Sorted α} {key : String} (h : ∀ k ∈ entries.keys, k < key)
    (value : α) : entries.insert key value = entries ++ [(key, value)] := by
  unfold insert
  induction entries with
  | nil => rfl
  | cons entry rest ih =>
    obtain ⟨k, v⟩ := entry
    have hk : k < key := h k List.mem_cons_self
    have hne : key ≠ k := by
      rintro rfl
      exact String.lt_irrefl key hk
    have hrest := ih fun other hother => h other (List.mem_cons_of_mem _ hother)
    rw [Sorted.adjust, if_neg (String.lt_asymm hk), if_neg hne, hrest, List.cons_append]

theorem Ordered.insertAll_nil {entries : Sorted α} (h : entries.Ordered) :
    Sorted.insertAll [] entries = entries := by
  have hfold : ∀ before : Sorted α, Ordered (before ++ entries) →
      before.insertAll entries = before ++ entries := by
    clear h
    induction entries with
    | nil => simp [Sorted.insertAll]
    | cons entry rest ih =>
      intro before hd
      obtain ⟨k, v⟩ := entry
      have hk : ∀ other ∈ before.keys, other < k := by
        unfold Ordered keys at hd
        rw [List.map_append] at hd
        exact fun other ho => (List.pairwise_append.1 hd).2.2 other ho k List.mem_cons_self
      have hrest := ih (before ++ [(k, v)]) (by simpa using hd)
      rw [List.append_assoc, List.singleton_append] at hrest
      rw [← hrest, ← insert_of_forall_lt hk]
      rfl
  exact hfold [] h

end Reshape.Sorted

namespace Reshape.Json.Members

theorem insert_of_not_mem {members : Members} {key : String} (h : key ∉ members.keys)
    (value : Json) : members.insert key value = members ++ [(key, value)] := by
  induction members with
  | nil => rfl
  | cons entry rest ih =>
    obtain ⟨k, v⟩ := entry
    have hne : k ≠ key := fun he => h (he ▸ List.mem_cons_self)
    have hrest : key ∉ keys rest := fun hm => h (List.mem_cons_of_mem _ hm)
    rw [insert, if_neg hne, ih hrest, List.cons_append]

theorem ofList_of_nodup {members : Members} (h : members.keys.Nodup) :
    ofList members = members := by
  have hfold : ∀ before : Members, (keys (before ++ members)).Nodup →
      members.foldl (fun all entry => all.insert entry.1 entry.2) before =
        before ++ members := by
    clear h
    induction members with
    | nil => simp
    | cons entry rest ih =>
      intro before hd
      obtain ⟨k, v⟩ := entry
      have hk : k ∉ keys before := by
        unfold keys at hd ⊢
        rw [List.map_append] at hd
        exact fun hm => (List.nodup_append.1 hd).2.2 k hm k List.mem_cons_self rfl
      have hrest := ih (before ++ [(k, v)]) (by simpa using hd)
      simp only [List.foldl_cons, insert_of_not_mem hk, hrest, List.append_assoc,
        List.singleton_append]
  exact hfold [] h

end Reshape.Json.Members

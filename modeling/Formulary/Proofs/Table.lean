import Formulary.Table
import Mathlib.Data.List.Forall2

/-!
The keys and values of a table under writes. A key that has arrived stays where it is, so that what
a table has at its front is there for good; the value at a key is the one written there last.
-/

namespace Formulary.Table

variable {β : Type}

theorem mem_entryKeys {key : String} {entries : List (String × β)} :
    key ∈ entryKeys entries ↔ ∃ value, (key, value) ∈ entries := by
  simp [entryKeys]

theorem mem_entryKeys_iff_findEntry {key : String} {entries : List (String × β)} :
    key ∈ entryKeys entries ↔ ∃ value, findEntry key entries = some value := by
  induction entries with
  | nil => simp [entryKeys, findEntry]
  | cons e rest ih =>
    obtain ⟨k, v⟩ := e
    by_cases h : k = key
    · simp [entryKeys, findEntry, h]
    · have h' : ¬ key = k := fun he => h he.symm
      simp only [entryKeys] at ih
      simp [entryKeys, findEntry, h, h', ih]

/-- A name has a value just in case it is a key. -/
theorem mem_keys_iff {t : Table β} {key : String} : key ∈ t.keys ↔ ∃ value, t.get? key = some value :=
  mem_entryKeys_iff_findEntry

/-- Writes keep the keys at the front of a table. -/
theorem prefix_keys_set (t : Table β) (key : String) (value : β) :
    t.keys <+: (t.set key value).keys := by
  rw [keys_set]
  split
  · exact List.prefix_refl _
  · exact List.prefix_append _ _

theorem prefix_keys_setAll (t : Table β) (entries : List (String × β)) :
    t.keys <+: (t.setAll entries).keys := by
  induction entries generalizing t with
  | nil => exact List.prefix_refl _
  | cons e rest ih => exact (prefix_keys_set t e.1 e.2).trans (ih (t.set e.1 e.2))

/-- Where keys are and in which order is settled by the keys that are written. -/
theorem keys_setAll_congr {t t' : Table β} {entries entries' : List (String × β)}
    (keys : t.keys = t'.keys) (same : entryKeys entries = entryKeys entries') :
    (t.setAll entries).keys = (t'.setAll entries').keys := by
  induction entries generalizing t t' entries' with
  | nil =>
    obtain rfl : entries' = [] := List.map_eq_nil_iff.1 same.symm
    exact keys
  | cons e rest ih =>
    obtain ⟨e', rest', rfl, key, later⟩ := List.map_eq_cons_iff.1 same.symm
    rw [setAll, setAll, List.foldl_cons, List.foldl_cons]
    refine ih ?_ later.symm
    rw [keys_set, keys_set, keys, key]

theorem setEntry_of_not_mem {key : String} {value : β} {entries : List (String × β)}
    (h : key ∉ entryKeys entries) : setEntry key value entries = entries ++ [(key, value)] := by
  induction entries with
  | nil => rfl
  | cons e rest ih =>
    obtain ⟨k, v⟩ := e
    simp only [entryKeys, List.map_cons, List.mem_cons, not_or] at h
    rw [setEntry, if_neg (Ne.symm h.1), ih h.2]
    rfl

theorem mem_setEntry {key : String} {value : β} {entries : List (String × β)} {e : String × β}
    (h : e ∈ setEntry key value entries) : e = (key, value) ∨ e ∈ entries := by
  induction entries with
  | nil => exact .inl (List.mem_singleton.1 h)
  | cons first rest ih =>
    obtain ⟨k, v⟩ := first
    rw [setEntry] at h
    split at h
    · exact (List.mem_cons.1 h).imp_right (List.mem_cons_of_mem _)
    · rcases List.mem_cons.1 h with rfl | later
      · exact .inr List.mem_cons_self
      · exact (ih later).imp_right (List.mem_cons_of_mem _)

/-- New keys go to the end in the order of their arrival. -/
theorem entries_setAll (t : Table β) {entries : List (String × β)}
    (h : (t.keys ++ entryKeys entries).Nodup) :
    (t.setAll entries).entries = t.entries ++ entries := by
  induction entries generalizing t with
  | nil => exact (List.append_nil _).symm
  | cons e rest ih =>
    have split : t.keys ++ entryKeys (e :: rest) = t.keys ++ [e.1] ++ entryKeys rest := by
      simp [entryKeys]
    rw [split] at h
    have new : e.1 ∉ t.keys := by
      intro hm
      have apart := (List.nodup_append.1 (List.nodup_append.1 h).1).2.2
      exact apart e.1 hm e.1 (by simp) rfl
    have grown : (t.set e.1 e.2).keys = t.keys ++ [e.1] := by
      rw [keys_set, if_neg new]
    rw [← grown] at h
    have later : (t.setAll (e :: rest)).entries = _ := ih (t.set e.1 e.2) h
    rw [later, entries_set, setEntry_of_not_mem new, List.append_assoc]
    rfl

theorem keys_ofList {entries : List (String × β)} (h : (entryKeys entries).Nodup) :
    (ofList entries).keys = entryKeys entries :=
  congrArg entryKeys (entries_setAll empty h)

/-- The entries of a table make it up again. -/
theorem ofList_entries (t : Table β) : ofList t.entries = t :=
  ext_entries (entries_setAll empty t.nodup)

/-- Entries side by side under the same names have the same keys. -/
theorem entryKeys_forall₂ {γ : Type} {R : String × β → String × γ → Prop}
    {entries : List (String × β)} {entries' : List (String × γ)}
    (same : ∀ e e', R e e' → e.1 = e'.1) (h : List.Forall₂ R entries entries') :
    entryKeys entries = entryKeys entries' := by
  induction h with
  | nil => rfl
  | cons first _ ih => exact congrArg₂ List.cons (same _ _ first) ih

/-! ## Values -/

theorem findEntry_append (key : String) (entries entries' : List (String × β)) :
    findEntry key (entries ++ entries') =
      (findEntry key entries).or (findEntry key entries') := by
  induction entries with
  | nil => rfl
  | cons e rest ih =>
    obtain ⟨k, v⟩ := e
    by_cases h : k = key
    · simp [findEntry, h]
    · simp [findEntry, h, ih]

/-- What is found at a key is settled by the entries with that key. -/
theorem findEntry_filter (key : String) (entries : List (String × β)) :
    findEntry key (entries.filter (·.1 = key)) = findEntry key entries := by
  induction entries with
  | nil => rfl
  | cons e rest ih =>
    obtain ⟨k, v⟩ := e
    by_cases h : k = key
    · simp [findEntry, h]
    · simp [findEntry, h, ih]

theorem mem_of_findEntry {key : String} {value : β} {entries : List (String × β)}
    (h : findEntry key entries = some value) : (key, value) ∈ entries := by
  induction entries with
  | nil => cases h
  | cons e rest ih =>
    obtain ⟨k, v⟩ := e
    by_cases hk : k = key
    · simp_all [findEntry]
    · rw [findEntry, if_neg hk] at h
      exact List.mem_cons_of_mem _ (ih h)

theorem findEntry_eq_some_iff {key : String} {value : β} {entries : List (String × β)}
    (h : (entryKeys entries).Nodup) :
    findEntry key entries = some value ↔ (key, value) ∈ entries := by
  induction entries with
  | nil => simp [findEntry]
  | cons e rest ih =>
    obtain ⟨k, v⟩ := e
    obtain ⟨new, distinct⟩ := List.nodup_cons.1 h
    by_cases hk : k = key
    · subst hk
      have absent : (k, value) ∉ rest := fun hm => new (mem_entryKeys.2 ⟨_, hm⟩)
      simp [findEntry, absent, eq_comm]
    · simp [findEntry, hk, Ne.symm hk, ih distinct]

/-- Where keys are distinct, their order does not matter to what is found. -/
theorem findEntry_perm {entries entries' : List (String × β)} (h : (entryKeys entries).Nodup)
    (perm : entries.Perm entries') (key : String) :
    findEntry key entries = findEntry key entries' := by
  have h' : (entryKeys entries').Nodup := (perm.map _).nodup_iff.1 h
  refine Option.ext fun value => ?_
  rw [findEntry_eq_some_iff h, findEntry_eq_some_iff h', perm.mem_iff]

/-- The last entry with a key is the one that counts. -/
theorem get?_setAll (t : Table β) (entries : List (String × β)) (key : String) :
    (t.setAll entries).get? key = (findEntry key entries.reverse).or (t.get? key) := by
  induction entries generalizing t with
  | nil => rfl
  | cons e rest ih =>
    have later : (t.setAll (e :: rest)).get? key = _ := ih (t.set e.1 e.2)
    rw [later, get?_set, List.reverse_cons, findEntry_append, Option.or_assoc]
    by_cases h : e.1 = key
    · simp [findEntry, h]
    · simp [findEntry, h, Ne.symm h]

/-- What is not written keeps its value, -/
theorem get?_setAll_of_not_mem (t : Table β) {entries : List (String × β)} {key : String}
    (h : key ∉ entryKeys entries) : (t.setAll entries).get? key = t.get? key := by
  rw [get?_setAll]
  cases found : findEntry key entries.reverse with
  | none => rfl
  | some value =>
    have written := List.mem_reverse.1 (mem_of_findEntry found)
    exact absurd (mem_entryKeys.2 ⟨_, written⟩) h

/-- and what is written has one of the values written. -/
theorem get?_setAll_of_mem (t : Table β) {entries : List (String × β)} {key : String} {value : β}
    (h : (key, value) ∈ entries) :
    ∃ last, (key, last) ∈ entries ∧ (t.setAll entries).get? key = some last := by
  have present : key ∈ entryKeys entries.reverse :=
    mem_entryKeys.2 ⟨value, List.mem_reverse.2 h⟩
  obtain ⟨last, found⟩ := mem_entryKeys_iff_findEntry.1 present
  refine ⟨last, List.mem_reverse.1 (mem_of_findEntry found), ?_⟩
  rw [get?_setAll, found, Option.some_or]

theorem setAll_append (t : Table β) (entries entries' : List (String × β)) :
    t.setAll (entries ++ entries') = (t.setAll entries).setAll entries' :=
  List.foldl_append

theorem get?_eq_some_iff {t : Table β} {key : String} {value : β} :
    t.get? key = some value ↔ (key, value) ∈ t.entries :=
  findEntry_eq_some_iff t.nodup

/-- Whatever stands in a table after writes was there before or was written. -/
theorem mem_entries_setAll {t : Table β} {entries : List (String × β)} {e : String × β}
    (h : e ∈ (t.setAll entries).entries) : e ∈ t.entries ∨ e ∈ entries := by
  have found := get?_eq_some_iff.2 h
  rw [get?_setAll, Option.or_eq_some_iff] at found
  rcases found with found | ⟨-, found⟩
  · exact .inr (List.mem_reverse.1 (mem_of_findEntry found))
  · exact .inl (get?_eq_some_iff.1 found)

theorem get?_setAll_of_nodup (t : Table β) {entries : List (String × β)}
    (h : (entryKeys entries).Nodup) (key : String) :
    (t.setAll entries).get? key = (findEntry key entries).or (t.get? key) := by
  rw [get?_setAll, findEntry_perm h (List.reverse_perm entries).symm]

theorem get?_merge (t other : Table β) (key : String) :
    (t.merge other).get? key = (other.get? key).or (t.get? key) :=
  get?_setAll_of_nodup t other.nodup key

end Formulary.Table

import Formulary.Proofs.Template.Reading

/-!
Tables laid over one another. A table is settled by its keys, in order, and by what is found at
each; so to lay a table over another comes to the same as to write, in turn, the entries that the
upper one was made from. From there follow the laws of laying over, and of writes that change places.
-/

namespace Formulary

variable {β : Type}

theorem eq_of_findEntry_eq {entries entries' : List (String × β)}
    (distinct : (entryKeys entries).Nodup) (keys : entryKeys entries = entryKeys entries')
    (found : ∀ key, findEntry key entries = findEntry key entries') : entries = entries' := by
  induction entries generalizing entries' with
  | nil => exact (List.map_eq_nil_iff.1 keys.symm).symm
  | cons e rest ih =>
    obtain ⟨⟨k, v'⟩, rest', rfl, same, later⟩ := List.map_eq_cons_iff.1 keys.symm
    obtain ⟨k, v⟩ := e
    obtain rfl := same
    obtain ⟨new, distinct⟩ := List.nodup_cons.1 distinct
    have absent {others : List (String × β)} (h : k ∉ entryKeys others) :
        findEntry k others = none :=
      Option.eq_none_iff_forall_not_mem.2 fun value held =>
        h (Table.mem_entryKeys_iff_findEntry.2 ⟨value, held⟩)
    have first := found k
    simp only [findEntry, if_true, Option.some.injEq] at first
    rw [first, ih distinct later.symm fun key => ?_]
    by_cases own : k = key
    · subst own
      rw [absent new, absent fun h => new (later ▸ h)]
    · simpa [findEntry, own] using found key

namespace Table

theorem eq_of_get?_eq {t u : Table β} (keys : t.keys = u.keys)
    (values : ∀ key, t.get? key = u.get? key) : t = u :=
  ext_entries (eq_of_findEntry_eq t.nodup keys values)

/-- Behind the keys that are there come the new ones, each once. -/
theorem keys_setAll (t : Table β) (entries : List (String × β)) :
    (t.setAll entries).keys = t.keys ++ ((entryKeys entries).filter (· ∉ t.keys)).eraseDups := by
  rw [← Template.foldl_add_eq]
  induction entries generalizing t with
  | nil => rfl
  | cons e rest ih =>
    have later : (t.setAll (e :: rest)).keys = _ := ih (t.set e.1 e.2)
    rw [later, keys_set]
    rfl

theorem keys_ofList_eq_eraseDups (entries : List (String × β)) :
    (ofList entries).keys = (entryKeys entries).eraseDups := by
  have none : (empty : Table β).keys = [] := rfl
  rw [ofList, keys_setAll, none, List.nil_append, List.filter_eq_self.2 (by simp)]

theorem mem_keys_setAll_iff {t : Table β} {entries : List (String × β)} {key : String} :
    key ∈ (t.setAll entries).keys ↔ key ∈ t.keys ∨ key ∈ entryKeys entries := by
  rw [keys_setAll, List.mem_append, List.mem_eraseDups, List.mem_filter, decide_eq_true_eq]
  tauto

/-- To write to what is laid over a table is to write to the whole. -/
theorem merge_set (t u : Table β) (key : String) (value : β) :
    t.merge (u.set key value) = (t.merge u).set key value := by
  refine eq_of_get?_eq ?_ fun name => ?_
  · by_cases known : key ∈ u.keys
    · have written : key ∈ (t.merge u).keys := mem_keys_setAll_iff.2 (.inr known)
      have kept : (u.set key value).keys = u.keys := by rw [keys_set, if_pos known]
      rw [keys_set, if_pos written]
      exact keys_setAll_congr rfl kept
    · rw [merge, entries_set, setEntry_of_not_mem known, setAll_append]
      rfl
  · rw [get?_set, get?_merge, get?_merge, get?_set]
    split <;> rfl

theorem setAll_concat (t : Table β) (entries : List (String × β)) (e : String × β) :
    t.setAll (entries ++ [e]) = (t.setAll entries).set e.1 e.2 := setAll_append t entries [e]

theorem ofList_concat (entries : List (String × β)) (e : String × β) :
    ofList (entries ++ [e]) = (ofList entries).set e.1 e.2 := setAll_concat empty entries e

/-- Entries that are written in turn may as well be gathered in a table first. -/
theorem merge_ofList (t : Table β) (entries : List (String × β)) :
    t.merge (ofList entries) = t.setAll entries := by
  induction entries using List.reverseRecOn with
  | nil => rfl
  | append_singleton entries e ih =>
    rw [ofList_concat, setAll_concat, merge_set, ih]

theorem ofList_append (entries entries' : List (String × β)) :
    ofList (entries ++ entries') = (ofList entries).merge (ofList entries') := by
  rw [merge_ofList, ofList, setAll_append]
  rfl

/-! ## Laws -/

theorem merge_assoc (t u w : Table β) : (t.merge u).merge w = t.merge (u.merge w) := by
  have both : u.merge w = ofList (u.entries ++ w.entries) := by
    rw [ofList_append, ofList_entries, ofList_entries]
  rw [both, merge_ofList, setAll_append]
  rfl

theorem empty_merge (t : Table β) : empty.merge t = t := ofList_entries t

theorem merge_empty (t : Table β) : t.merge empty = t := rfl

theorem merge_ofList_singleton (t : Table β) (key : String) (value : β) :
    t.merge (ofList [(key, value)]) = t.set key value := merge_ofList t [(key, value)]

theorem eraseDups_of_nodup {names : List String} (h : names.Nodup) : names.eraseDups = names := by
  induction names with
  | nil => rfl
  | cons name rest ih =>
    obtain ⟨new, later⟩ := List.nodup_cons.1 h
    have kept : rest.filter (fun other => !other == name) = rest := by
      refine List.filter_eq_self.2 fun other ho => ?_
      have apart : other ≠ name := fun same => new (same ▸ ho)
      simpa using apart
    rw [List.eraseDups_cons, kept, ih later]

/-- Writes to distinct keys may come in any order, but for the places of new keys: these come in the
order of the writes. -/
theorem setAll_perm {entries entries' : List (String × β)} (distinct : (entryKeys entries).Nodup)
    (perm : entries.Perm entries') (t : Table β) :
    (∀ name, (t.setAll entries).get? name = (t.setAll entries').get? name) ∧
    (t.setAll entries).keys = t.keys ++ (entryKeys entries).filter (· ∉ t.keys) ∧
    (t.setAll entries').keys = t.keys ++ (entryKeys entries').filter (· ∉ t.keys) := by
  have distinct' : (entryKeys entries').Nodup := (perm.map _).nodup_iff.1 distinct
  refine ⟨fun name => ?_, ?_, ?_⟩
  · rw [get?_setAll_of_nodup t distinct, get?_setAll_of_nodup t distinct',
      findEntry_perm distinct perm]
  · rw [keys_setAll, eraseDups_of_nodup (distinct.filter _)]
  · rw [keys_setAll, eraseDups_of_nodup (distinct'.filter _)]

section

variable {t : Table β} {key key' : String}

/-- Where one of two keys is there already, it does not matter which is written to first. -/
theorem set_comm_of_mem (apart : key ≠ key') (known : key ∈ t.keys ∨ key' ∈ t.keys)
    (value value' : β) :
    (t.set key value).set key' value' = (t.set key' value').set key value := by
  have distinct : (entryKeys [(key, value), (key', value')]).Nodup := by
    simpa [entryKeys] using apart
  obtain ⟨values, keys, keys'⟩ := setAll_perm distinct (List.Perm.swap _ _ _) t
  refine eq_of_get?_eq (keys.trans (Eq.trans ?_ keys'.symm)) values
  -- At most one of the keys is new, so that there is but one order.
  rcases known with known | known <;> simp [entryKeys, List.filter_cons, known]

/-- Two new keys go to the end as they are written. -/
theorem entries_set_set (apart : key ≠ key') (new : key ∉ t.keys) (new' : key' ∉ t.keys)
    (value value' : β) : ((t.set key value).set key' value').entries =
      t.entries ++ [(key, value), (key', value')] := by
  have fresh : (t.keys ++ entryKeys [(key, value), (key', value')]).Nodup := by
    refine List.nodup_append.2 ⟨t.nodup, by simpa [entryKeys] using apart, fun a ha b hb => ?_⟩
    have written : b = key ∨ b = key' := by simpa [entryKeys] using hb
    rintro rfl
    rcases written with rfl | rfl
    · exact new ha
    · exact new' ha
  exact entries_setAll t fresh

end

end Table

end Formulary

import Formulary.Proofs.Overlay
import Mathlib.Data.Finset.Card
import Mathlib.Data.List.Sort

/-!
Values, however they were made. Whichever way they are put together, from names or entries, by
writes, or laid over one another, they are what all the writes on that way leave behind, one after
another: the keys in order of first arrival, and at each of them the value written there last.
-/

namespace Formulary

/-! ## What writes leave -/

/-- The table is what the writes leave, one after another: their keys, each once in order of first
arrival, and at each key the value of the last write to it. -/
structure Table.LeftBy {β : Type} (t : Table β) (writes : List (String × β)) : Prop where
  nodup : t.keys.Nodup
  mem_keys : ∀ key, key ∈ t.keys ↔ key ∈ entryKeys writes
  inOrder : t.keys.Pairwise fun a b => (entryKeys writes).idxOf a < (entryKeys writes).idxOf b
  get?_iff : ∀ key value, t.get? key = some value ↔ ∃ before behind,
    writes = before ++ (key, value) :: behind ∧ key ∉ entryKeys behind
  size_eq : t.size = (entryKeys writes).toFinset.card

namespace Table

variable {β : Type} {t u : Table β} {writes : List (String × β)}

theorem mem_keys_ofList {key : String} : key ∈ (ofList writes).keys ↔ key ∈ entryKeys writes := by
  have none : key ∉ (empty : Table β).keys := List.not_mem_nil
  rw [ofList, mem_keys_setAll_iff, or_iff_right none]

theorem keys_ofList_in_order (writes : List (String × β)) : (ofList writes).keys.Pairwise
    fun a b => (entryKeys writes).idxOf a < (entryKeys writes).idxOf b := by
  induction writes using List.reverseRecOn with
  | nil => exact .nil
  | append_singleton writes last ih =>
    obtain ⟨key, value⟩ := last
    have arrivals : entryKeys (writes ++ [(key, value)]) = entryKeys writes ++ [key] :=
      List.map_append
    have earlier {a : String} (ha : a ∈ (ofList writes).keys) :
        (entryKeys writes ++ [key]).idxOf a = (entryKeys writes).idxOf a :=
      List.idxOf_append_of_mem (mem_keys_ofList.1 ha)
    have old : (ofList writes).keys.Pairwise fun a b =>
        (entryKeys writes ++ [key]).idxOf a < (entryKeys writes ++ [key]).idxOf b := by
      refine ih.imp_of_mem fun {a b} ha hb lt => ?_
      rwa [earlier ha, earlier hb]
    rw [ofList_concat, arrivals, keys_set]
    split
    · exact old
    · next new =>
      refine List.pairwise_append.2 ⟨old, List.pairwise_singleton _ _, fun a ha b hb => ?_⟩
      obtain rfl := List.mem_singleton.1 hb
      -- The new key arrives with the last write, behind all the others.
      have absent : b ∉ entryKeys writes := fun h => new (mem_keys_ofList.2 h)
      rw [earlier ha, List.idxOf_append_of_notMem absent]
      exact Nat.lt_add_right _ (List.idxOf_lt_length_of_mem (mem_keys_ofList.1 ha))

theorem get?_ofList_eq_some_iff {key : String} {value : β} :
    (ofList writes).get? key = some value ↔ ∃ before behind,
      writes = before ++ (key, value) :: behind ∧ key ∉ entryKeys behind := by
  constructor
  · intro found
    induction writes using List.reverseRecOn with
    | nil => cases found
    | append_singleton writes last ih =>
      rw [ofList_concat, get?_set] at found
      by_cases here : key = last.1
      · subst here
        rw [if_pos rfl] at found
        cases found
        exact ⟨writes, [], rfl, List.not_mem_nil⟩
      · rw [if_neg here] at found
        obtain ⟨before, behind, rfl, absent⟩ := ih found
        refine ⟨before, behind ++ [last], by simp, ?_⟩
        simp only [entryKeys, List.map_append, List.map_cons, List.map_nil, List.mem_append,
          List.mem_singleton, not_or]
        exact ⟨absent, here⟩
  · rintro ⟨before, behind, rfl, absent⟩
    have last : ofList (before ++ (key, value) :: behind) =
        ((ofList before).set key value).setAll behind := setAll_append empty before _
    rw [last, get?_setAll_of_not_mem _ absent, get?_set, if_pos rfl]

theorem leftBy_ofList (writes : List (String × β)) : (ofList writes).LeftBy writes := by
  refine ⟨(ofList writes).nodup, fun key => mem_keys_ofList, keys_ofList_in_order writes,
    fun key value => ?_, ?_⟩
  · exact get?_ofList_eq_some_iff
  · have same : (ofList writes).keys.toFinset = (entryKeys writes).toFinset := by
      ext key
      rw [List.mem_toFinset, List.mem_toFinset, mem_keys_ofList]
    have distinct : (ofList writes).keys.Nodup := (ofList writes).nodup
    rw [← same, List.toFinset_card_of_nodup distinct]
    exact (List.length_map _).symm

/-- Nothing else is left. -/
theorem LeftBy.unique (h : t.LeftBy writes) (h' : u.LeftBy writes) : t = u := by
  have asymm : Std.Asymm fun a b : String =>
      (entryKeys writes).idxOf a < (entryKeys writes).idxOf b := ⟨fun _ _ => Nat.lt_asymm⟩
  have keys : t.keys = u.keys := h.inOrder.eq_of_mem_iff h'.inOrder fun key =>
    (h.mem_keys key).trans (h'.mem_keys key).symm
  exact eq_of_get?_eq keys fun key =>
    Option.ext fun value => (h.get?_iff key value).trans (h'.get?_iff key value).symm

end Table

/-! ## Ways to make values -/

namespace Template

/-- How values are made: from nothing, from names or from entries, by writing to values that were
made before, or by laying some over others. -/
inductive Making where
  | nothing
  | ofNames (names : List String)
  | ofEntries (entries : List (String × String))
  | set (before : Making) (name value : String)
  | merge (lower upper : Making)
deriving Repr

namespace Making

/-- The values that are made. -/
def values : Making → Values
  | nothing => Table.empty
  | ofNames names => blankValues names
  | ofEntries entries => Table.ofList entries
  | set before name value => before.values.set name value
  | merge lower upper => lower.values.merge upper.values

/-- All that is written on the way, in turn. -/
def writes : Making → List (String × String)
  | nothing => []
  | ofNames names => names.map (·, "")
  | ofEntries entries => entries
  | set before name value => before.writes ++ [(name, value)]
  | merge lower upper => lower.writes ++ upper.writes

theorem values_eq_ofList (m : Making) : m.values = Table.ofList m.writes := by
  induction m with
  | nothing => rfl
  | ofNames names => rfl
  | ofEntries entries => rfl
  | set before name value ih =>
    rw [values, writes, Table.ofList_concat, ih]
  | merge lower upper ihLower ihUpper =>
    rw [values, writes, Table.ofList_append, ihLower, ihUpper]

end Making

/-- Values are what the writes leave that made them, whichever way they were made, and nothing else
is: names in order of first arrival, each with the value written last. To lay values over others is
associative, with no values as its neutral element, and to write one is to lay it over alone.
Writes to two names may change places, but that two new names arrive in the order of the writes; and
so may any number of writes to different names. -/
theorem values_by_writes :
    (∀ (m : Making) (values : Values), values.LeftBy m.writes ↔ values = m.values) ∧
    (∀ a b c : Values, (a.merge b).merge c = a.merge (b.merge c)) ∧
    (∀ a : Values, Table.empty.merge a = a ∧ a.merge Table.empty = a) ∧
    (∀ (a : Values) name value, a.set name value = a.merge (Table.ofList [(name, value)])) ∧
    (∀ (a : Values) name name' value value', name ≠ name' →
      ((name ∈ a.keys ∨ name' ∈ a.keys) →
        (a.set name value).set name' value' = (a.set name' value').set name value) ∧
      (name ∉ a.keys → name' ∉ a.keys →
        ((a.set name value).set name' value').entries =
            a.entries ++ [(name, value), (name', value')] ∧
          ((a.set name' value').set name value).entries =
            a.entries ++ [(name', value'), (name, value)])) ∧
    ∀ (a : Values) writes writes', (entryKeys writes).Nodup → writes.Perm writes' →
      (∀ name, (a.setAll writes).get? name = (a.setAll writes').get? name) ∧
      (a.setAll writes).keys = a.keys ++ (entryKeys writes).filter (· ∉ a.keys) ∧
      (a.setAll writes').keys = a.keys ++ (entryKeys writes').filter (· ∉ a.keys) := by
  refine ⟨fun m values => ?_, Table.merge_assoc, fun a => ⟨a.empty_merge, a.merge_empty⟩,
    fun a name value => (a.merge_ofList_singleton name value).symm,
    fun a name name' value value' apart => ⟨fun known => ?_, fun new new' => ⟨?_, ?_⟩⟩,
    fun a writes writes' distinct perm => Table.setAll_perm distinct perm a⟩
  · have left : m.values.LeftBy m.writes := m.values_eq_ofList ▸ Table.leftBy_ofList m.writes
    exact ⟨fun h => h.unique left, fun h => h ▸ left⟩
  · exact Table.set_comm_of_mem apart known value value'
  · exact Table.entries_set_set apart new new' value value'
  · exact Table.entries_set_set apart.symm new' new value' value

/-- Three layers that overlap; and writes of which one is to a name that is there. -/
theorem values_by_writes_three_layers :
    let lower : Making := .set (.ofNames ["b", "a"]) "a" "1"
    let upper : Making := .merge (.ofEntries [("c", "2"), ("b", "3"), ("c", "4")])
      (.set .nothing "b" "")
    let m : Making := .merge lower upper
    let a : Values := Table.ofList [("b", "")]
    let writes := [("x", "1"), ("b", "2"), ("y", "3")]
    let writes' := [("y", "3"), ("x", "1"), ("b", "2")]
    m.values.entries = [("b", ""), ("a", "1"), ("c", "4")] ∧ m.values.LeftBy m.writes ∧
    "x" ≠ "b" ∧ "b" ∈ a.keys ∧ (a.set "x" "1").set "b" "2" = (a.set "b" "2").set "x" "1" ∧
    "x" ≠ "y" ∧ "x" ∉ a.keys ∧ "y" ∉ a.keys ∧
    ((a.set "x" "1").set "y" "3").entries = [("b", ""), ("x", "1"), ("y", "3")] ∧
    (entryKeys writes).Nodup ∧ writes.Perm writes' ∧
    (∀ name, (a.setAll writes).get? name = (a.setAll writes').get? name) ∧
    (a.setAll writes).keys = ["b", "x", "y"] ∧ (a.setAll writes').keys = ["b", "y", "x"] := by
  intro lower upper m a writes writes'
  obtain ⟨left, -, -, -, pairs, any⟩ := values_by_writes
  obtain ⟨known, -⟩ := pairs a "x" "b" "1" "2" (by decide)
  obtain ⟨-, new⟩ := pairs a "x" "y" "1" "3" (by decide)
  have distinct : (entryKeys writes).Nodup := by decide
  have perm : writes.Perm writes' := by decide
  obtain ⟨values, keys, keys'⟩ := any a writes writes' distinct perm
  exact ⟨by decide, (left m m.values).2 rfl, by decide, by decide, known (.inr (by decide)),
    by decide, by decide, by decide, (new (by decide) (by decide)).1, distinct, perm, values,
    keys.trans (by decide), keys'.trans (by decide)⟩

end Template

end Formulary

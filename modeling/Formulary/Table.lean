/-!
Tables that keep the order in which their keys first arrived. Writing to a key that is present moves
nothing; a new key goes to the end; laying one table over another writes its entries in turn.
-/

namespace Formulary

/-- Writes `value` at `key`: in place where the key is present, at the end where it is new. -/
def setEntry {β : Type} (key : String) (value : β) : List (String × β) → List (String × β)
  | [] => [(key, value)]
  | (k, v) :: rest => if k = key then (key, value) :: rest else (k, v) :: setEntry key value rest

def findEntry {β : Type} (key : String) : List (String × β) → Option β
  | [] => none
  | (k, v) :: rest => if k = key then some v else findEntry key rest

def entryKeys {β : Type} (entries : List (String × β)) : List String := entries.map (·.1)

theorem entryKeys_setEntry {β : Type} (key : String) (value : β) (entries : List (String × β)) :
    entryKeys (setEntry key value entries) =
      if key ∈ entryKeys entries then entryKeys entries else entryKeys entries ++ [key] := by
  induction entries with
  | nil => rfl
  | cons e rest ih =>
    obtain ⟨k, v⟩ := e
    by_cases h : k = key
    · subst h
      simp [setEntry, entryKeys]
    · have h' : ¬ key = k := fun he => h he.symm
      by_cases hm : key ∈ entryKeys rest
      · simp_all [setEntry, entryKeys]
      · simp_all [setEntry, entryKeys]

theorem nodup_entryKeys_setEntry {β : Type} (key : String) (value : β)
    {entries : List (String × β)} (h : (entryKeys entries).Nodup) :
    (entryKeys (setEntry key value entries)).Nodup := by
  rw [entryKeys_setEntry]
  split
  · exact h
  · next hm =>
    rw [List.nodup_append]
    refine ⟨h, by simp, ?_⟩
    intro a ha b hb he
    simp only [List.mem_singleton] at hb
    subst hb he
    exact hm ha

/-- Entries with distinct keys, in the order in which the keys arrived. -/
structure Table (β : Type) where
  entries : List (String × β)
  nodup : (entryKeys entries).Nodup

namespace Table

variable {β : Type}

theorem ext_entries {a b : Table β} (h : a.entries = b.entries) : a = b := by
  cases a; cases b; cases h; rfl

instance [DecidableEq β] : DecidableEq (Table β) := fun a b =>
  decidable_of_iff (a.entries = b.entries) ⟨ext_entries, fun h => h ▸ rfl⟩

instance [Repr β] : Repr (Table β) := ⟨fun t n => reprPrec t.entries n⟩

def empty : Table β := ⟨[], List.nodup_nil⟩

instance : Inhabited (Table β) := ⟨empty⟩

def keys (t : Table β) : List String := entryKeys t.entries

def size (t : Table β) : Nat := t.entries.length

def isEmpty (t : Table β) : Bool := t.entries.isEmpty

/-- The value last written at `key`. -/
def get? (t : Table β) (key : String) : Option β := findEntry key t.entries

def contains (t : Table β) (key : String) : Bool := (t.get? key).isSome

/-- Writes `value` at `key`; a key that is present keeps its place. -/
def set (t : Table β) (key : String) (value : β) : Table β :=
  ⟨setEntry key value t.entries, nodup_entryKeys_setEntry key value t.nodup⟩

/-- Writes entries in turn. -/
def setAll (t : Table β) (entries : List (String × β)) : Table β :=
  entries.foldl (fun t e => t.set e.1 e.2) t

/-- A table from pairs: a repeated key keeps its first place and takes the last value. -/
def ofList (entries : List (String × β)) : Table β := empty.setAll entries

/-- `other` laid over `t`. -/
def merge (t other : Table β) : Table β := t.setAll other.entries

@[simp] theorem entries_set (t : Table β) (key : String) (value : β) :
    (t.set key value).entries = setEntry key value t.entries := rfl

theorem keys_set (t : Table β) (key : String) (value : β) :
    (t.set key value).keys = if key ∈ t.keys then t.keys else t.keys ++ [key] :=
  entryKeys_setEntry key value t.entries

theorem get?_set (t : Table β) (key name : String) (value : β) :
    (t.set key value).get? name = if name = key then some value else t.get? name := by
  obtain ⟨entries, nodup⟩ := t
  simp only [get?, entries_set]
  clear nodup
  induction entries with
  | nil => simp [setEntry, findEntry, eq_comm]
  | cons e rest ih =>
    obtain ⟨k, v⟩ := e
    by_cases hk : k = key
    · subst hk
      by_cases h : k = name
      · simp [setEntry, findEntry, h]
      · simp [setEntry, findEntry, h, Ne.symm h]
    · by_cases hn : k = name
      · subst hn
        simp [setEntry, findEntry, hk]
      · simp [setEntry, findEntry, hk, hn, ih]

end Table

end Formulary

import Formulary.Proofs.Json.Keys
import Formulary.Proofs.Outcome
import Formulary.Proofs.Table
import Formulary.Record.Store

/-!
Stores read from JSON. A value is a store if it is an object of objects of scalars, and then every
record has its fields in order; any other value is refused for what is wrong first in the order of
the document.
-/

namespace Formulary.Record

open Json (Value)

/-! ## What a store is -/

/-- The value is no container. -/
def IsScalar : Value → Prop
  | .array _ => False
  | .object _ => False
  | _ => True

/-- The value is an object of scalars. -/
def IsRecord : Value → Prop
  | .object fields => ∀ f ∈ fields, IsScalar f.2
  | _ => False

/-- The value is an object of records. -/
def IsStore : Value → Prop
  | .object members => ∀ e ∈ members, IsRecord e.2
  | _ => False

/-- The text that a field holds for a value. -/
inductive FieldText : Value → String → Prop
  | string (s : String) : FieldText (.string s) s
  | yes : FieldText (.bool true) "true"
  | no : FieldText (.bool false) "false"
  | null : FieldText .null ""
  | number (n : Json.Numeric) : FieldText (.number n) n.toText

/-- The field has the name and the text of the member. -/
def SameField (member : String × Value) (field : String × String) : Prop :=
  member.1 = field.1 ∧ FieldText member.2 field.2

/-- The record has the fields of the object, in their order. -/
def Holds (v : Value) (record : Fields) : Prop :=
  ∃ fields, v = .object fields ∧ List.Forall₂ SameField fields record.entries

/-- The store has the records of the members, in their order, and no others. -/
structure Store.HoldsAll (store : Store) (members : List (String × Value)) : Prop where
  ids : store.keys = entryKeys members
  found : ∀ e ∈ members, ∃ record, store.lookup e.1 = .ok record ∧ Holds e.2 record
  missing : ∀ id, id ∉ entryKeys members → store.lookup id = .error (.notFound id)

/-- What is wrong with a value as a store; of several faults, the first in the order of the
document. -/
inductive FirstFault : Value → StoreFault → Prop
  | root {v : Value} : (∀ members, v ≠ .object members) → FirstFault v .notAnObject
  | record {before after : List (String × Value)} {id : String} {v : Value} :
      (∀ e ∈ before, IsRecord e.2) → (∀ fields, v ≠ .object fields) →
      FirstFault (.object (before ++ (id, v) :: after)) (.recordNotAnObject id)
  | field {before after front behind : List (String × Value)} {id field : String} {v : Value} :
      (∀ e ∈ before, IsRecord e.2) → (∀ f ∈ front, IsScalar f.2) → ¬ IsScalar v →
      FirstFault (.object (before ++ (id, .object (front ++ (field, v) :: behind)) :: after))
        (.fieldNotScalar id field)

/-! ## Lists side by side -/

section

variable {α β : Type} {R : α → β → Prop}

theorem exists_forall₂ {as : List α} (h : ∀ a ∈ as, ∃ b, R a b) : ∃ bs, List.Forall₂ R as bs := by
  induction as with
  | nil => exact ⟨[], .nil⟩
  | cons a as ih =>
    obtain ⟨b, first⟩ := h a List.mem_cons_self
    obtain ⟨bs, later⟩ := ih fun a ha => h a (List.mem_cons_of_mem _ ha)
    exact ⟨b :: bs, .cons first later⟩

theorem exists_of_mem_forall₂ {as : List α} {bs : List β} (h : List.Forall₂ R as bs) {a : α}
    (ha : a ∈ as) : ∃ b ∈ bs, R a b := by
  induction h with
  | nil => cases ha
  | @cons a' b as bs first _ ih =>
    rcases List.mem_cons.1 ha with rfl | ha
    · exact ⟨b, List.mem_cons_self, first⟩
    · obtain ⟨b, hb, related⟩ := ih ha
      exact ⟨b, List.mem_cons_of_mem _ hb, related⟩

/-- Either all elements have a property, or there is a first one that has not. -/
theorem all_or_first (p : α → Prop) (as : List α) : (∀ a ∈ as, p a) ∨
    ∃ before a after, as = before ++ a :: after ∧ (∀ b ∈ before, p b) ∧ ¬ p a := by
  induction as with
  | nil => exact .inl (by simp)
  | cons a as ih =>
    by_cases first : p a
    · rcases ih with all | ⟨before, b, after, rfl, good, bad⟩
      · exact .inl (List.forall_mem_cons.2 ⟨first, all⟩)
      · exact .inr ⟨a :: before, b, after, rfl, List.forall_mem_cons.2 ⟨first, good⟩, bad⟩
    · exact .inr ⟨[], a, as, rfl, by simp, first⟩

end

/-! ## Fields -/

variable {v : Value} {id field text : String} {record : Fields} {store : Store}
variable {fields front rest members : List (String × Value)}

theorem scalarText?_eq_some_iff : scalarText? v = some text ↔ FieldText v text := by
  constructor
  · intro h
    cases v with
    | null => cases h; exact .null
    | bool b => cases b <;> cases h <;> constructor
    | number n => cases h; exact .number n
    | string => cases h; exact .string text
    | array _ => cases h
    | object _ => cases h
  · intro h
    cases h <;> rfl

theorem scalarText?_eq_none_iff : scalarText? v = none ↔ ¬ IsScalar v := by
  cases v <;> simp [scalarText?, IsScalar]

theorem exists_fieldText (h : IsScalar v) : ∃ text, FieldText v text := by
  cases read : scalarText? v with
  | none => exact absurd h (scalarText?_eq_none_iff.1 read)
  | some text => exact ⟨text, scalarText?_eq_some_iff.1 read⟩

theorem exists_texts (h : ∀ f ∈ fields, IsScalar f.2) :
    ∃ texts, List.Forall₂ SameField fields texts :=
  exists_forall₂ fun f hf => by
    obtain ⟨text, textOf⟩ := exists_fieldText (h f hf)
    exact ⟨(f.1, text), rfl, textOf⟩

/-- Scalars are added with their texts, -/
theorem addFields_append {texts : List (String × String)}
    (h : List.Forall₂ SameField fields texts) (id : String) (record : Fields)
    (rest : List (String × Value)) :
    addFields id record (fields ++ rest) = addFields id (record.setAll texts) rest := by
  induction h generalizing record with
  | nil => rfl
  | @cons f e _ _ first _ ih =>
    obtain ⟨name, v⟩ := f
    obtain ⟨name', text⟩ := e
    obtain ⟨rfl, textOf⟩ := first
    rw [List.cons_append, addFields, scalarText?_eq_some_iff.2 textOf]
    exact ih (record.set name text)

/-- and the first container ends it. -/
theorem addFields_eq_error (h : ∀ f ∈ front, IsScalar f.2) (bad : ¬ IsScalar v) (id : String)
    (record : Fields) (rest : List (String × Value)) :
    addFields id record (front ++ (field, v) :: rest) = .error (.fieldNotScalar id field) := by
  obtain ⟨texts, same⟩ := exists_texts h
  rw [addFields_append same, addFields, scalarText?_eq_none_iff.2 bad]

theorem addFields_of_forall₂ (h : List.Forall₂ SameField fields record.entries) (id : String) :
    addFields id Table.empty fields = .ok record := by
  have all := addFields_append h id Table.empty []
  rwa [List.append_nil, addFields, show Table.empty.setAll record.entries = record from
    Table.ofList_entries record] at all

theorem exists_holds (shape : IsRecord v) (distinct : v.Distinct) : ∃ record, Holds v record := by
  cases v with
  | object fields =>
    obtain ⟨texts, same⟩ := exists_texts shape
    have nodup : (entryKeys texts).Nodup := by
      rw [← Table.entryKeys_forall₂ (fun _ _ => And.left) same]
      exact distinct.members.1
    exact ⟨⟨texts, nodup⟩, fields, rfl, same⟩
  | _ => cases shape

/-! ## Records -/

/-- The entry of a store has the identifier and the fields of the member. -/
def SameRecord (member : String × Value) (entry : String × Fields) : Prop :=
  member.1 = entry.1 ∧ Holds member.2 entry.2

theorem exists_records (shape : ∀ e ∈ members, IsRecord e.2)
    (distinct : ∀ e ∈ members, e.2.Distinct) :
    ∃ records, List.Forall₂ SameRecord members records :=
  exists_forall₂ fun e he => by
    obtain ⟨record, holds⟩ := exists_holds (shape e he) (distinct e he)
    exact ⟨(e.1, record), rfl, holds⟩

theorem addRecords_append {records : List (String × Fields)}
    (h : List.Forall₂ SameRecord members records) (store : Store) (rest : List (String × Value)) :
    addRecords store (members ++ rest) = addRecords (store.setAll records) rest := by
  induction h generalizing store with
  | nil => rfl
  | @cons e e' _ _ first _ ih =>
    obtain ⟨id, v⟩ := e
    obtain ⟨id', record⟩ := e'
    obtain ⟨rfl, fields, rfl, same⟩ := first
    rw [List.cons_append, addRecords, bind_of_ok (addFields_of_forall₂ same id)]
    exact ih (store.set id record)

/-! ## Stores -/

theorem ofJson_of_forall₂ {records : List (String × Fields)} (nodup : (entryKeys members).Nodup)
    (h : List.Forall₂ SameRecord members records) :
    ∃ store, Store.ofJson (.object members) = .ok store ∧ store.HoldsAll members := by
  have keys : entryKeys members = entryKeys records := Table.entryKeys_forall₂ (fun _ _ => And.left) h
  have nodup' : (entryKeys records).Nodup := keys ▸ nodup
  have entries : (Table.ofList records).entries = records := Table.entries_setAll _ nodup'
  refine ⟨Table.ofList records, ?_, ?_, fun e he => ?_, fun id hid => ?_⟩
  · have all := addRecords_append h Table.empty []
    rwa [List.append_nil, addRecords] at all
  · rw [keys, Table.keys_ofList nodup']
  · obtain ⟨entry, hentry, same, holds⟩ := exists_of_mem_forall₂ h he
    have found : (Table.ofList records).get? e.1 = some entry.2 := by
      rw [Table.get?_eq_some_iff, entries, same]
      exact hentry
    exact ⟨entry.2, by rw [Store.lookup, found], holds⟩
  · have unknown : (Table.ofList records).get? id = none := by
      rw [keys, ← Table.keys_ofList nodup', Table.mem_keys_iff, not_exists] at hid
      exact Option.eq_none_iff_forall_ne_some.2 hid
    rw [Store.lookup, unknown]

theorem ofJson_of_firstFault {fault : StoreFault} (distinct : v.Distinct) (h : FirstFault v fault) :
    Store.ofJson v = .error fault := by
  cases h with
  | root other =>
    unfold Store.ofJson
    split
    · next members => exact absurd rfl (other members)
    · rfl
  | @record before after id v good other =>
    obtain ⟨records, same⟩ := exists_records good fun e he =>
      distinct.members.2 e (List.mem_append_left _ he)
    rw [Store.ofJson, addRecords_append same]
    cases v with
    | object fields => exact absurd rfl (other fields)
    | _ => rfl
  | @field before after front behind id field v good scalars bad =>
    obtain ⟨records, same⟩ := exists_records good fun e he =>
      distinct.members.2 e (List.mem_append_left _ he)
    rw [Store.ofJson, addRecords_append same, addRecords,
      bind_of_error (addFields_eq_error scalars bad id _ _)]

theorem FirstFault.not_isStore {fault : StoreFault} (h : FirstFault v fault) : ¬ IsStore v := by
  intro shape
  cases h with
  | root other =>
    cases v with
    | object members => exact other members rfl
    | _ => cases shape
  | @record before after id v _ other =>
    have record : IsRecord v := shape (id, v) (by simp)
    cases v with
    | object fields => exact other fields rfl
    | _ => cases record
  | @field before after front behind id field v _ _ bad =>
    have record : IsRecord (.object (front ++ (field, v) :: behind)) := shape (id, _) (by simp)
    exact bad (record (field, v) (by simp))

theorem isStore_or_firstFault (v : Value) : IsStore v ∨ ∃ fault, FirstFault v fault := by
  cases v with
  | object members =>
    rcases all_or_first (fun e : String × Value => IsRecord e.2) members with
      all | ⟨before, ⟨id, w⟩, after, rfl, good, bad⟩
    · exact .inl all
    · cases w with
      | object fields =>
        rcases all_or_first (fun f : String × Value => IsScalar f.2) fields with
          all | ⟨front, ⟨field, w⟩, behind, rfl, scalars, container⟩
        · exact absurd all bad
        · exact .inr ⟨_, .field good scalars container⟩
      | _ => exact .inr ⟨_, .record good nofun⟩
  | _ => exact .inr ⟨_, .root nofun⟩

/-- A value is a store and read as one, or it has a fault and is refused for it. -/
theorem ofJson_cases (distinct : v.Distinct) :
    (∃ members store, v = .object members ∧ IsStore v ∧ Store.ofJson v = .ok store ∧
      store.HoldsAll members) ∨
    ∃ fault, FirstFault v fault ∧ Store.ofJson v = .error fault := by
  rcases isStore_or_firstFault v with shape | ⟨fault, wrong⟩
  · cases v with
    | object members =>
      obtain ⟨records, same⟩ := exists_records shape distinct.members.2
      obtain ⟨store, made, holds⟩ := ofJson_of_forall₂ distinct.members.1 same
      exact .inl ⟨members, store, rfl, shape, made, holds⟩
    | _ => cases shape
  · exact .inr ⟨fault, wrong, ofJson_of_firstFault distinct wrong⟩

/-- A JSON text is read into a store just in case it is an object of objects of scalars. The store
has all its records, and nothing else is found in it; any other text is refused for its first
fault. -/
theorem parse_store {text : String} (h : Json.parse text = some v) :
    ((∃ store, Store.parse text = .ok store) ↔ IsStore v) ∧
    (∀ store, Store.parse text = .ok store →
      ∃ members, v = .object members ∧ store.HoldsAll members) ∧
    (∀ fault, Store.parse text = .error fault ↔ FirstFault v fault) := by
  have distinct := Json.distinct_of_parse h
  have read : Store.parse text = Store.ofJson v := by rw [Store.parse, h]
  rw [read]
  rcases ofJson_cases distinct with ⟨members, store, eq, shape, made, holds⟩ | ⟨fault, wrong, refused⟩
  · rw [made]
    refine ⟨iff_of_true ⟨store, rfl⟩ shape, fun store' same => ⟨members, eq, ?_⟩, fun fault => ?_⟩
    · rwa [← Except.ok.inj same]
    · exact iff_of_false nofun fun wrong => wrong.not_isStore shape
  · rw [refused]
    refine ⟨iff_of_false nofun wrong.not_isStore, nofun, fun fault' => ⟨fun same => ?_, fun wrong' => ?_⟩⟩
    · rwa [← Except.error.inj same]
    · rw [← refused, ofJson_of_firstFault distinct wrong']

/-- The first record is sound, the second has a list in its second field, and the third is no object:
the field of the second is named. -/
theorem parse_store_two_faults :
    let text := "\x7b\"1\":\x7b\"a\":true\x7d,\"2\":\x7b\"b\":null,\"c\":[]\x7d,\"3\":\"d\"\x7d"
    ∃ v, Json.parse text = some v ∧ ¬ IsStore v ∧
      Store.parse text = .error (.fieldNotScalar "2" "c") ∧
      FirstFault v (.fieldNotScalar "2" "c") := by
  intro text
  have json : (Json.parse text).isSome = true := by decide +kernel
  obtain ⟨v, read⟩ := Option.isSome_iff_exists.1 json
  obtain ⟨-, -, faults⟩ := parse_store read
  have refused : Store.parse text = .error (.fieldNotScalar "2" "c") := by decide +kernel
  have fault := (faults _).1 refused
  exact ⟨v, read, fault.not_isStore, refused, fault⟩

end Formulary.Record

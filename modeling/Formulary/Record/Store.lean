import Formulary.Json.Reader

/-!
Stored records: fields by name, found by the identifier of the record. A store is read from a JSON
object of objects. Numbers, truth values and `null` become texts; what has no text is refused, and
the first such field is named.
-/

namespace Formulary.Record

/-- The fields of a record in storage order. -/
abbrev Fields := Table String

/-- Records by identifier. -/
abbrev Store := Table Fields

inductive StoreFault where
  | notJson
  | notAnObject
  | recordNotAnObject (id : String)
  | fieldNotScalar (id field : String)
  /-- Reported by a source of records, in its own words. -/
  | told (reason : String)
deriving DecidableEq, Repr

/-- The fault in words; there are none for a text that is no JSON. -/
def StoreFault.message? : StoreFault → Option String
  | notJson => none
  | notAnObject => some "expected a JSON object keyed by record id"
  | recordNotAnObject id => some ("record '" ++ id ++ "' is not an object")
  | fieldNotScalar id field =>
    some ("record '" ++ id ++ "' field '" ++ field ++
      "' must be a string, number, boolean or null")
  | told reason => some reason

/-- The text of a value that is no container; `null` is the empty text. -/
def scalarText? : Json.Value → Option String
  | .null => some ""
  | .bool b => some (if b then "true" else "false")
  | .number n => some n.toText
  | .string s => some s
  | .array _ => none
  | .object _ => none

/-- Adds fields to a record, up to the first that has no text. -/
def addFields (id : String) : Fields → List (String × Json.Value) → Except StoreFault Fields
  | record, [] => .ok record
  | record, (field, v) :: rest =>
    match scalarText? v with
    | some text => addFields id (record.set field text) rest
    | none => .error (.fieldNotScalar id field)

/-- Adds records to a store, up to the first that is none. -/
def addRecords : Store → List (String × Json.Value) → Except StoreFault Store
  | store, [] => .ok store
  | store, (id, .object fields) :: rest => do
    let record ← addFields id Table.empty fields
    addRecords (store.set id record) rest
  | _, (id, _) :: _ => .error (.recordNotAnObject id)

def Store.ofJson : Json.Value → Except StoreFault Store
  | .object members => addRecords Table.empty members
  | _ => .error .notAnObject

def Store.parse (text : String) : Except StoreFault Store :=
  match Json.parse text with
  | some v => Store.ofJson v
  | none => .error .notJson

inductive LookupFault where
  | notFound (id : String)
  | store (fault : StoreFault)
deriving DecidableEq, Repr

/-- The record of an identifier. -/
def Store.lookup (store : Store) (id : String) : Except LookupFault Fields :=
  match store.get? id with
  | some record => .ok record
  | none => .error (.notFound id)

end Formulary.Record

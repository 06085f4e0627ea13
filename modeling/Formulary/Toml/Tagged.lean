import Formulary.Toml.Reader

/-!
Moments that are written as strings. A value may be a table whose first key is a tag and whose value
there is a string: it stands for the moment that the string writes, and the other keys say nothing.
-/

namespace Formulary.Toml

open Text.Reader

/-- The key that makes a table stand for a moment. -/
def momentTag : String := "$__toml_private_datetime"

/-- The moment that a string writes. -/
def Moment.ofText? (s : String) : Option Moment := whole moment s.toList

mutual

/-- A value with the moments that its tables stand for; there is none where a tagged table has no
moment in it. -/
def Value.untagged? : Value → Option Value
  | .array elements => .array <$> untaggedElements? elements
  | .table ((key, v) :: entries) =>
    if key = momentTag then
      match v with
      | .string s => .moment <$> Moment.ofText? s
      | _ => none
    else do
      let v ← v.untagged?
      let entries ← untaggedEntries? entries
      some (.table ((key, v) :: entries))
  | v => some v

def untaggedElements? : List Value → Option (List Value)
  | [] => some []
  | v :: rest => do
    let v ← v.untagged?
    let rest ← untaggedElements? rest
    some (v :: rest)

def untaggedEntries? : List (String × Value) → Option (List (String × Value))
  | [] => some []
  | (key, v) :: rest => do
    let v ← v.untagged?
    let rest ← untaggedEntries? rest
    some ((key, v) :: rest)

end

/-- The table that a TOML text writes, with the moments that tables in it stand for. -/
def parseTagged (text : String) : Option (List (String × Value)) :=
  (parse text).bind untaggedEntries?

end Formulary.Toml

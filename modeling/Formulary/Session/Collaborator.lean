import Formulary.Session.Fault

/-!
Those that a session works with: converters of uploads, sources of records, editors. Each answers
with what it was asked for or with any fault there is.
-/

namespace Formulary.Session

/-- Turns uploads into templates. -/
abbrev Converter := List UInt8 → Except Fault String

/-- Finds records by identifier. -/
abbrev Source := String → Except Fault Record.Fields

/-- What came of showing a document to an editor: the texts it reported, in order, and whether it
failed in the end. -/
structure EditRun where
  reports : List String
  outcome : Except Fault Unit

abbrev TextEditor := Editor.EditRequest → EditRun

/-- Takes uploads that are text already. -/
def convertText : Converter := fun bytes => (Template.ofUpload bytes).mapError .upload

def lookupIn (store : Record.Store) : Source := fun id => (store.lookup id).mapError .ofLookup

def EditRun.ofEdit : Except Editor.EditFault (Option String) → EditRun
  | .ok edited? => ⟨edited?.toList, .ok ()⟩
  | .error fault => ⟨[], .error (.ofEdit fault)⟩

end Formulary.Session

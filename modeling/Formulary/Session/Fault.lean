import Formulary.Editor.Basic
import Formulary.Record.Store
import Formulary.Render.Basic
import Formulary.Session.View
import Formulary.Template.Basic
import Formulary.Template.Upload

/-!
Everything that may go wrong in a session, and how it is reported. Those that a session works with
may fail with any fault there is; what they report is passed on, and reads the same as if it were
the session's own.
-/

namespace Formulary.Session

inductive Fault where
  | upload (fault : Template.UploadFault)
  | template (issue : Template.Issue)
  /-- Issues keep a template from being filled: how many, and the first. -/
  | blocked (count : Nat) (first : Template.Issue)
  | noTemplate
  | noDocument
  | noRecordId
  | recordNotFound (id : String)
  | store (fault : Record.StoreFault)
  | render (fault : Render.RenderFault)
  | editor (fault : Editor.EditorFault)
  | refused (refusal : Refusal)
  | config (fault : Config.ConfigFault)
  | file (fault : Files.FileFault)
  /-- Anything else, in its own words. -/
  | told (reason : String)
  /-- Reported by a converter, a source of records or an editor. -/
  | passedOn (fault : Fault)
deriving DecidableEq, Repr

def Fault.ofLookup : Record.LookupFault → Fault
  | .notFound id => recordNotFound id
  | .store fault => store fault

def Fault.ofEdit : Editor.EditFault → Fault
  | .editor fault => editor fault
  | .file fault => file fault

/-- The fault in words. What is wrong with a text that could not be read is not told. -/
def Fault.message : Fault → String
  | upload fault => "TEMPLATE_LOAD_FAILED: " ++ fault.message
  | template issue => "TEMPLATE_INVALID: " ++ issue.message
  | blocked count first =>
    "TEMPLATE_BLOCKED: " ++ toString count ++
      " placeholder issue(s) must be fixed before generating; first: " ++ first.message
  | noTemplate => "TEMPLATE_MISSING: no template is loaded"
  | noDocument => "DOCUMENT_MISSING: no document has been generated"
  | noRecordId => "RECORD_ID_EMPTY: a record identifier is required"
  | recordNotFound id => "RECORD_NOT_FOUND: record '" ++ id ++ "' not found"
  | store fault =>
    match fault.message? with
    | some text => "RECORD_STORE_INVALID: " ++ text
    | none => "RECORD_STORE_INVALID:"
  | render fault => "RENDER_FAILED: " ++ fault.message
  | editor fault => "EDITOR_FAILED: " ++ fault.message
  | refused refusal =>
    "INVALID_TRANSITION: cannot " ++ refusal.action.text ++ " from the " ++ refusal.view.text ++
      " view"
  | config fault => fault.message
  | file fault => "IO_ERROR: " ++ fault.message
  | told reason => reason
  | passedOn fault => fault.message

/-- Whether the report breaks off where the words for an unreadable text would stand. -/
def Fault.isOpen : Fault → Bool
  | store fault => fault.message?.isNone
  | config .unreadable => true
  | passedOn fault => fault.isOpen
  | _ => false

end Formulary.Session

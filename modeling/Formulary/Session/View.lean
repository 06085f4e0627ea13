/-!
The views of a session and the actions that lead from one to another.
-/

namespace Formulary.Session

/-- What a session shows. -/
inductive View where
  | upload
  | form
  | editor
deriving DecidableEq, Repr

/-- What a session can be asked to do. -/
inductive Action where
  | loadTemplate
  | editValues
  | generate
  | edit
  | «export»
  | backToForm
  | startOver
deriving DecidableEq, Repr

def View.text : View → String
  | upload => "upload"
  | form => "form"
  | editor => "editor"

def Action.text : Action → String
  | loadTemplate => "load a template"
  | editValues => "edit values"
  | generate => "generate the document"
  | edit => "edit the document"
  | .export => "export the document"
  | backToForm => "go back to the form"
  | startOver => "start over"

/-- An action that a view does not allow. -/
structure Refusal where
  view : View
  action : Action
deriving DecidableEq, Repr

/-- The view after an action. A template is loaded into an empty session, its values are edited on
the form, and documents are edited in the editor; starting over is always possible. -/
def View.after (view : View) (action : Action) : Except Refusal View :=
  match view, action with
  | _, .startOver => .ok .upload
  | .upload, .loadTemplate => .ok .form
  | .form, .editValues => .ok .form
  | .form, .generate => .ok .editor
  | .editor, .edit => .ok .editor
  | .editor, .export => .ok .editor
  | .editor, .backToForm => .ok .form
  | _, _ => .error ⟨view, action⟩

end Formulary.Session

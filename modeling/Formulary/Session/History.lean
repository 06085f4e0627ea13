import Formulary.Session.Basic

/-!
Sessions over time. A step is one operation with all that it was handed, however that behaves; a
step that fails leaves the session as it was.
-/

namespace Formulary.Session

open Template Record Editor

/-- An operation on a session. -/
inductive Step where
  | loadTemplate (convert : Converter) (fileName : String) (bytes : List UInt8)
  | setValue (name value : String)
  | autofill {σ : Type} [Sample.WordSource σ] (rules : List (Sample.Rule σ)) (source : σ)
  | loadRecord (source : Source) (id : String)
  | generate
  | applyEdit (html : String) (author : Author)
  | editWith (editor : TextEditor) (author : Author)
  | backToForm
  | startOver
  | exportPdf (renderer : Render.Renderer)

/-- The action that a step is an instance of. -/
def Step.action : Step → Action
  | loadTemplate .. => .loadTemplate
  | setValue .. => .editValues
  | autofill .. => .editValues
  | loadRecord .. => .editValues
  | generate => .generate
  | applyEdit .. => .edit
  | editWith .. => .edit
  | backToForm => .backToForm
  | startOver => .startOver
  | exportPdf _ => .export

/-- The session after a step, or why there is none. -/
def after (s : Session) : Step → Except Fault Session
  | .loadTemplate convert fileName bytes => s.loadTemplate convert fileName bytes
  | .setValue name value => s.setValue name value
  | @Step.autofill _ _ rules source => (·.2) <$> s.autofill rules source
  | .loadRecord source id => (·.2) <$> s.loadRecord source id
  | .generate => s.generate
  | .applyEdit html author => s.applyEdit html author
  | .editWith editor author => (·.2) <$> s.editWith editor author
  | .backToForm => s.backToForm
  | .startOver => .ok s.startOver
  | .exportPdf renderer => (fun _ => s) <$> s.exportPdf renderer

/-- The session that goes on behind a step. -/
def goOn (s : Session) (step : Step) : Session :=
  match s.after step with
  | .ok next => next
  | .error _ => s

def run (s : Session) (steps : List Step) : Session := steps.foldl goOn s

end Formulary.Session

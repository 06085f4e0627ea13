import Formulary.Session.History

/-!
Sessions whose collaborators act. A converter, a source of records, an inventor of values, an editor
or a renderer may do things while it answers: show a window, start a program, note that it was
asked. It does them in a monad, and an operation does there what its collaborators do, at the place
where it asks them.
-/

namespace Formulary.Session

open Template Record Editor Number

/-- A step whose collaborators act in `m`. -/
inductive ActingStep (m : Type → Type) where
  | loadTemplate (convert : List UInt8 → m (Except Fault String)) (fileName : String)
      (bytes : List UInt8)
  | setValue (name value : String)
  | autofill (invent : List String → m Values)
  | loadRecord (source : String → m (Except Fault Fields)) (id : String)
  | generate
  | applyEdit (html : String) (author : Author)
  | editWith (editor : EditRequest → m EditRun) (author : Author)
  | backToForm
  | startOver
  | exportPdf (renderer : Render.Layout → m (Except Render.RenderFault
      (Binary32 → m (Except Render.RenderFault Image.Bitmap))))

def ActingStep.action {m : Type → Type} : ActingStep m → Action
  | loadTemplate .. => .loadTemplate
  | setValue .. => .editValues
  | autofill .. => .editValues
  | loadRecord .. => .editValues
  | generate => .generate
  | applyEdit .. => .edit
  | editWith .. => .edit
  | backToForm => .backToForm
  | startOver => .startOver
  | exportPdf _ => .export

section

variable {m : Type → Type} [Monad m]

/-- A step with its collaborators, which do nothing but answer. -/
def Step.acting : Step → ActingStep m
  | .loadTemplate convert fileName bytes =>
    .loadTemplate (fun bytes => pure (convert bytes)) fileName bytes
  | .setValue name value => .setValue name value
  | @Step.autofill _ _ rules source =>
    .autofill fun names => pure ((Sample.autofill rules names).run source).1
  | .loadRecord source id => .loadRecord (fun id => pure (source id)) id
  | .generate => .generate
  | .applyEdit html author => .applyEdit html author
  | .editWith editor author => .editWith (fun request => pure (editor request)) author
  | .backToForm => .backToForm
  | .startOver => .startOver
  | .exportPdf renderer =>
    .exportPdf fun layout => pure ((fun surface scale => pure (surface scale)) <$> renderer layout)

namespace Acting

/-- Asks a collaborator; its fault is one of the session. -/
def consult {ε α : Type} (asFault : ε → Fault) (answer : m (Except ε α)) : ExceptT Fault m α :=
  ExceptT.mk ((·.mapError asFault) <$> answer)

def loadTemplate (s : Session) (convert : List UInt8 → m (Except Fault String))
    (fileName : String) (bytes : List UInt8) : ExceptT Fault m Session := do
  let view ← s.viewAfter .loadTemplate
  let html ← consult .passedOn (convert bytes)
  let form := Form.ofHtml (titleOfFileName fileName) s.config.output.actType html
  pure { s with view, template := some form, values := form.blankValues, document := none }

def autofill (s : Session) (invent : List String → m Values) : ExceptT Fault m Session := do
  let _ ← s.viewAfter .editValues
  let form ← s.requireTemplate
  let values ← invent form.names
  pure { s with values }

def loadRecord (s : Session) (source : String → m (Except Fault Fields)) (id : String) :
    ExceptT Fault m (Nat × Session) := do
  let _ ← s.viewAfter .editValues
  let id := Text.trim id
  if id.isEmpty then throw .noRecordId
  let record ← consult .passedOn (source id)
  let values := normalize s.config.records record
  pure (values.size, { s with values := s.values.merge values })

def editWith (s : Session) (editor : EditRequest → m EditRun) (author : Author) :
    ExceptT Fault m (Bool × Session) := do
  let request ← s.editRequest
  let run ← editor request
  let () ← (run.outcome.mapError .passedOn : Except Fault Unit)
  match run.reports.getLast? with
  | some html => do
    let s ← s.applyEdit html author
    pure (true, s)
  | none => pure (false, s)

def exportPdf (s : Session) (renderer : Render.Layout → m (Except Render.RenderFault
    (Binary32 → m (Except Render.RenderFault Image.Bitmap)))) : ExceptT Fault m Exported := do
  let request ← s.captureRequest
  let surface ← consult .render (renderer request.layout)
  let bitmap ← consult .render (surface request.scale)
  ((assemble s.config request bitmap).mapError fun fault => .render (.plan fault) :
    Except Fault Exported)

end Acting

end

end Formulary.Session

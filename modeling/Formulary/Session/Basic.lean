import Formulary.Pdf.Document
import Formulary.Sample.Rule
import Formulary.Session.Collaborator

/-!
A session takes one document from an uploaded template to a finished PDF. It owns the template, the
values and the document; what it needs beside them is handed to the operation that needs it: a
converter of uploads, a source of records, rules to invent values by, an editor, a renderer.

An operation first asks whether the view allows it. Where it fails, for this or any other reason,
there is no new session, and the old one goes on.
-/

namespace Formulary

namespace Session

open Template Record Editor Number

structure Author where
  id : Nat
  name : String
deriving DecidableEq, Repr

structure FilledText where
  html : String
  /-- Who edited it last; nobody, while it is as it was generated. -/
  editedBy : Option Author
deriving DecidableEq, Repr

end Session

/-- The state of a session. -/
structure Session where
  config : Config
  view : Session.View
  template : Option Template.Form
  values : Template.Values
  document : Option Session.FilledText
deriving DecidableEq, Repr

namespace Session

open Template Record Editor Number

/-- A session in which nothing has happened. -/
def start (config : Config) : Session := ⟨config, .upload, none, Table.empty, none⟩

def viewAfter (s : Session) (action : Action) : Except Fault View :=
  (s.view.after action).mapError .refused

def requireTemplate (s : Session) : Except Fault Form :=
  match s.template with
  | some t => .ok t
  | none => .error .noTemplate

def requireDocument (s : Session) : Except Fault FilledText :=
  match s.document with
  | some d => .ok d
  | none => .error .noDocument

/-! ## The form -/

/-- Loads an upload under a file name: the template is titled after the file, its values are blank
and there is no document. Issues in the template do not keep it from being loaded. -/
def loadTemplate (s : Session) (convert : Converter) (fileName : String) (bytes : List UInt8) :
    Except Fault Session := do
  let view ← s.viewAfter .loadTemplate
  let html ← (convert bytes).mapError .passedOn
  let form := Form.ofHtml (titleOfFileName fileName) s.config.output.actType html
  pure { s with view, template := some form, values := form.blankValues, document := none }

def setValue (s : Session) (name value : String) : Except Fault Session := do
  let _ ← s.viewAfter .editValues
  pure { s with values := s.values.set name value }

/-- Puts invented values in place of all there are, and tells what is left of the source they were
drawn from. -/
def autofill {σ : Type} [Sample.WordSource σ] (s : Session) (rules : List (Sample.Rule σ))
    (source : σ) : Except Fault (σ × Session) := do
  let _ ← s.viewAfter .editValues
  let form ← s.requireTemplate
  let (values, source) := (Sample.autofill rules form.names).run source
  pure (source, { s with values })

/-- Lays the values of a record over those there are, and tells how many they were. -/
def loadRecord (s : Session) (source : Source) (id : String) :
    Except Fault (Nat × Session) := do
  let _ ← s.viewAfter .editValues
  let id := Text.trim id
  if id.isEmpty then throw .noRecordId
  let record ← (source id).mapError .passedOn
  let values := normalize s.config.records record
  pure (values.size, { s with values := s.values.merge values })

/-- Fills the template with the values, unless issues keep it from being filled. -/
def generate (s : Session) : Except Fault Session := do
  let view ← s.viewAfter .generate
  let form ← s.requireTemplate
  match form.issues with
  | first :: rest => throw (.blocked (rest.length + 1) first)
  | [] =>
    let html := fill form.html s.values s.config.style
    pure { s with view, document := some ⟨html, none⟩ }

/-! ## The editor -/

/-- Puts an edited text in place of the document. -/
def applyEdit (s : Session) (html : String) (author : Author) : Except Fault Session := do
  let _ ← s.viewAfter .edit
  let _ ← s.requireDocument
  pure { s with document := some ⟨html, some author⟩ }

/-- What an editor would be shown. -/
def editRequest (s : Session) : Except Fault EditRequest := do
  let _ ← s.viewAfter .edit
  let document ← s.requireDocument
  pure ⟨document.html, s.config.editor⟩

/-- Shows the document to an editor. The last text it reports takes the place of the document, and
whether there was one is told. -/
def editWith (s : Session) (editor : TextEditor) (author : Author) :
    Except Fault (Bool × Session) := do
  let request ← s.editRequest
  let run := editor request
  run.outcome.mapError .passedOn
  match run.reports.getLast? with
  | some html => do
    let s ← s.applyEdit html author
    pure (true, s)
  | none => pure (false, s)

/-- Goes back to the form; the values are as they were. -/
def backToForm (s : Session) : Except Fault Session := do
  let view ← s.viewAfter .backToForm
  pure { s with view }

/-- Lets go of everything but the configuration. -/
def startOver (s : Session) : Session := start s.config

/-! ## Export -/

/-- A finished document under its file name. -/
structure Exported where
  fileName : String
  document : Pdf.Document Binary32
deriving DecidableEq, Repr

def Exported.pageCount (e : Exported) : Nat := e.document.pages.length

/-- What a renderer is given: the text and its width, the scale of the capture, and the page that
the picture will be cut for. -/
structure CaptureRequest where
  layout : Render.Layout
  scale : Binary32
  page : Page.Size Binary64
  title : String
deriving DecidableEq, Repr

def captureRequest (s : Session) : Except Fault CaptureRequest := do
  let _ ← s.viewAfter .export
  let form ← s.requireTemplate
  let document ← s.requireDocument
  let page ← s.config.page.size.mapError fun fault => .config (.size fault)
  pure ⟨⟨document.html, page.width⟩, s.config.page.scale, page, form.title⟩

/-- The title of a finished document: that of the template, unless it is blank. -/
def exportTitle (output : Config.OutputSettings) (title : String) : String :=
  if Text.allBlank title then output.defaultTitle else title

/-- Cuts a captured picture into pages and makes a document of them. -/
def assemble (config : Config) (request : CaptureRequest) (bitmap : Image.Bitmap) :
    Except (Page.PlanFault Binary64) Exported := do
  let plan ← Page.plan bitmap.width bitmap.height request.page
  let title := exportTitle config.output request.title
  let settings := { Pdf.Settings.standard with title, quality := config.page.quality }
  let document ← Pdf.document bitmap plan settings
  pure ⟨Pdf.fileName config.output.opening title, document⟩

/-- Captures the document and makes a PDF of it. The session stays as it is. -/
def exportPdf (s : Session) (renderer : Render.Renderer) : Except Fault Exported := do
  let request ← s.captureRequest
  let bitmap ← (do (← renderer request.layout) request.scale).mapError Fault.render
  (assemble s.config request bitmap).mapError fun fault => .render (.plan fault)

end Session

end Formulary

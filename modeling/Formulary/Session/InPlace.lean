import Formulary.Session.History

/-!
Sessions that are held in place. Whoever holds a session hands it from one operation to the next,
and an operation writes the parts of it one by one. A fault does not take back what was written
before it: it is told along with the session as it was left.
-/

namespace Formulary.Session

open Template Record Editor

/-- A computation on a session that is held in place. -/
abbrev InPlace (α : Type) := ExceptT Fault (StateM Session) α

namespace InPlace

/-- What a computation comes to, and the session that it leaves behind. -/
def on {α : Type} (s : Session) (act : InPlace α) : Except Fault α × Session := act.run.run s

/-- What a look at the session comes to; nothing is written. -/
def ask {α : Type} (look : Session → Except Fault α) : InPlace α := do
  look (← get)

/-! ## Parts of a session -/

def writeView (view : View) : InPlace Unit := modify fun s => { s with view }

def writeTemplate (template : Option Form) : InPlace Unit := modify fun s => { s with template }

def writeValues (values : Values) : InPlace Unit := modify fun s => { s with values }

def writeDocument (document : Option FilledText) : InPlace Unit :=
  modify fun s => { s with document }

/-- Changes the document, where there is one. -/
def amendDocument (change : FilledText → FilledText) : InPlace Unit :=
  modify fun s => { s with document := s.document.map change }

/-! ## Operations -/

def loadTemplate (convert : Converter) (fileName : String) (bytes : List UInt8) :
    InPlace Unit := do
  let view ← ask (·.viewAfter .loadTemplate)
  let html ← ask fun _ => (convert bytes).mapError .passedOn
  let form := Form.ofHtml (titleOfFileName fileName) (← get).config.output.actType html
  writeValues form.blankValues
  writeDocument none
  writeView view
  writeTemplate (some form)

def setValue (name value : String) : InPlace Unit := do
  let _ ← ask (·.viewAfter .editValues)
  writeValues ((← get).values.set name value)

def autofill {σ : Type} [Sample.WordSource σ] (rules : List (Sample.Rule σ)) (source : σ) :
    InPlace σ := do
  let _ ← ask (·.viewAfter .editValues)
  let form ← ask requireTemplate
  let (values, source) := (Sample.autofill rules form.names).run source
  writeValues values
  pure source

def loadRecord (source : Source) (id : String) : InPlace Nat := do
  let _ ← ask (·.viewAfter .editValues)
  let id := Text.trim id
  if id.isEmpty then throw .noRecordId
  let record ← ask fun _ => (source id).mapError .passedOn
  let values := normalize (← get).config.records record
  writeValues ((← get).values.merge values)
  pure values.size

def generate : InPlace Unit := do
  let view ← ask (·.viewAfter .generate)
  let form ← ask requireTemplate
  match form.issues with
  | first :: rest => throw (.blocked (rest.length + 1) first)
  | [] =>
    let s ← get
    let html := fill form.html s.values s.config.style
    writeView view
    writeDocument (some ⟨html, none⟩)

/-- Puts an edited text in place of the document, and then the name of its author. -/
def applyEdit (html : String) (author : Author) : InPlace Unit := do
  let _ ← ask (·.viewAfter .edit)
  let _ ← ask requireDocument
  amendDocument fun document => { document with html }
  amendDocument fun document => { document with editedBy := some author }

/-- Shows the document to an editor. While it is open, each text that it reports takes the place of
the one before; the document is changed once it has closed without a fault. -/
def editWith (editor : TextEditor) (author : Author) : InPlace Bool := do
  let request ← ask editRequest
  let run := editor request
  let latest := run.reports.foldl (fun _ html => some html) none
  ask fun _ => run.outcome.mapError .passedOn
  match latest with
  | some html => do
    applyEdit html author
    pure true
  | none => pure false

def backToForm : InPlace Unit := do
  writeView (← ask (·.viewAfter .backToForm))

def startOver : InPlace Unit := do
  writeTemplate none
  writeValues Table.empty
  writeDocument none
  writeView .upload

def exportPdf (renderer : Render.Renderer) : InPlace Exported := ask (·.exportPdf renderer)

def perform : Step → InPlace Unit
  | .loadTemplate convert fileName bytes => loadTemplate convert fileName bytes
  | .setValue name value => setValue name value
  | @Step.autofill _ _ rules source => discard (autofill rules source)
  | .loadRecord source id => discard (loadRecord source id)
  | .generate => generate
  | .applyEdit html author => applyEdit html author
  | .editWith editor author => discard (editWith editor author)
  | .backToForm => backToForm
  | .startOver => startOver
  | .exportPdf renderer => discard (exportPdf renderer)

end InPlace

end Formulary.Session

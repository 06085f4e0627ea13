import Formulary.Command.Help
import Formulary.Command.Job
import Formulary.Command.Report
import Formulary.Command.Values
import Formulary.Image.Decode

/-!
What the program does. A command goes through its stages in order and stops at the first that fails;
it prints to the output and writes to files when all stages before that have succeeded.
-/

namespace Formulary.Command

open Number Session Files Job

/-! ## The document -/

/-- A session with a filled template. -/
def fillTemplate (w : World) (config : Option String) (template : String)
    (sources : ValueSources) : Stage Session := do
  let config ← loadConfig w config
  let s ← openSession w config template
  let s ← applyValues w sources s
  inSession s.generate

/-- Shows the document to the program to edit with, and notes what came of it. -/
def editDocument (s : Session) : Job Session := do
  let program ← look fun w => inSession
    ((Editor.Program.choose s.config.editor.command w.visual w.editor).mapError .editor)
  let (changed, s) ← acting (Acting.editWith s (showTo program) (← get).world.author)
  if changed then note ("✓ Document edited in " ++ program.name ++ "\n")
  else note ("→ No changes from " ++ program.name ++ "\n")
  pure s

/-- A session with a filled template, edited where that is asked for. -/
def finishedDocument (config : Option String) (template : String) (sources : ValueSources)
    (edit : Bool) : Job Session := do
  let s ← look fun w => fillTemplate w config template sources
  if edit then editDocument s else pure s

/-- Takes the picture in a file for the capture of any text. -/
def fileRenderer (files : Tree) (path : String) : Render.Renderer := fun _ =>
  if files.isFile path then
    .ok fun _ =>
      match files.read path with
      | .ok content =>
        (Image.decode (extension? path) content.bytes).mapError fun fault =>
          .capture (.undecodable path fault)
      | .error fault => .error (.file fault)
  else .error (.capture (.missing path))

/-- Puts a document, in the octets that it is written in, into a directory, which is made where it is
not there. -/
def save (directory : String) (e : Exported) (octets : List UInt8) : Job Unit := do
  changeFiles fun files => inSession ((files.makeDirectories directory).mapError .file)
  changeFiles fun files => inSession
    ((files.write (inDirectory directory e.fileName) (.document e.document octets)).mapError .file)

/-! ## Commands -/

def runVars (config : Option String) (template : String) (json : Bool) : Job Unit := do
  let config ← look fun w => loadConfig w config
  let s ← look fun w => openSession w config template
  let form ← look fun _ => inSession s.requireTemplate
  print (varsReport form json)

/-- The text of a filled template, edited where that is asked for. -/
def finishedText (config : Option String) (template : String) (sources : ValueSources)
    (edit : Bool) : Job FilledText := do
  let s ← finishedDocument config template sources edit
  look fun _ => inSession s.requireDocument

def deliver (out : Option String) (document : FilledText) : Job Unit :=
  match out with
  | none => print document.html
  | some path => do
    writeText path document.html
    note ("✓ Wrote " ++ path ++ "\n")

def runFill (config : Option String) (template : String) (sources : ValueSources) (edit : Bool)
    (out : Option String) : Job Unit := do
  let document ← finishedText config template sources edit
  deliver out document

/-- A filled template, edited where that is asked for, as a document of its picture. -/
def finishedPdf (config : Option String) (template bitmap : String) (sources : ValueSources)
    (edit : Bool) : Job (Exported × List UInt8) := do
  let s ← finishedDocument config template sources edit
  look fun w => inSession (s.exportThrough w.encoder (fileRenderer w.files bitmap))

def runExport (config : Option String) (template bitmap : String) (sources : ValueSources)
    (edit : Bool) (outDir : String) (json : Bool) : Job Unit := do
  let (e, octets) ← finishedPdf config template bitmap sources edit
  save outDir e octets
  print (exportReport (inDirectory outDir e.fileName) e octets.length json)

def runPlan (config : Option String) (width height : Nat) (json : Bool) : Job Unit := do
  let config ← look fun w => loadConfig w config
  let page ← look fun _ => inSession (config.page.size.mapError fun fault => .config (.size fault))
  let p ← look fun _ =>
    (Page.plan width height page).mapError fun fault => ⟨none, .render (.plan fault)⟩
  print (planReport p json)

def Request.run (config : Option String) : Request → Job Unit
  | vars template json => runVars config template json
  | fill template sources edit out => runFill config template sources edit out
  | .export template bitmap sources edit outDir json =>
    runExport config template bitmap sources edit outDir json
  | plan width height json => runPlan config width height json

def versionLine : String := "minuta 0.1.0\n"

/-- Does what a command line asks for. A misuse is told by the status alone. -/
def run (w : World) (arguments : List String) : Outcome :=
  match asked w.configPath arguments with
  | .run config request => (request.run config).outcome w
  | .help topic => ⟨0, Text.toUtf8 (topic.text w.configPath), [], w.files⟩
  | .version => ⟨0, Text.toUtf8 versionLine, [], w.files⟩
  | .misuse => ⟨2, [], [], w.files⟩

end Formulary.Command

import Formulary.Command.World
import Formulary.Session.Acting

/-!
Commands at work. A command looks at what it finds when it comes to it, prints, changes files, and
has programs edit, one thing after another. What it has printed and changed stays as it is when
something fails after that, and so does what a program has.
-/

namespace Formulary.Command

open Session Files

/-- How far a command has come: what it finds by now, and what it has printed so far. -/
structure Progress where
  world : World
  output : List UInt8
  notes : List UInt8

/-- A command, or a part of one. -/
abbrev Job (α : Type) := ExceptT Failure (StateM Progress) α

namespace Job

variable {α : Type}

/-- What a job comes to, and how far it gets. -/
def on (p : Progress) (job : Job α) : Except Failure α × Progress := job.run.run p

/-- A stage that looks at what is there. -/
def look (stage : World → Stage α) : Job α := do
  stage (← get).world

def print (text : String) : Job Unit :=
  modify fun p => { p with output := p.output ++ Text.toUtf8 text }

/-- Prints beside the output. -/
def note (text : String) : Job Unit :=
  modify fun p => { p with notes := p.notes ++ Text.toUtf8 text }

/-- An operation on a session whose collaborators act on the way. -/
def acting (act : ExceptT Fault (StateM Progress) α) : Job α :=
  act.adapt fun fault => ⟨none, .session fault⟩

/-- The traces of a program: it has printed where the command prints, and left the files as it
liked. -/
def leave (traces : Editor.Traces) (p : Progress) : Progress where
  world := { p.world with files := traces.files }
  output := p.output ++ traces.output
  notes := p.notes ++ traces.notes

def showTo (program : Editor.Program) (request : Editor.EditRequest) :
    StateM Progress EditRun := do
  let w := (← get).world
  let (edit, traces) := Editor.editBy w.programs program w.files request.html
  modify (leave traces)
  pure (.ofEdit edit)

def changeFiles (change : Tree → Stage Tree) : Job Unit := do
  let files ← look fun w => change w.files
  modify fun p => { p with world := { p.world with files } }

/-- Writes a text to a path; what is written to a device of the program is printed. -/
def writeText (path text : String) : Job Unit := do
  let device := (← get).world.files.device? path
  changeFiles fun files => fileTask (.write path) (files.write path (.octets (Text.toUtf8 text)))
  match device with
  | some .output => print text
  | some .notes => note text
  | _ => pure ()

/-- Does a job from the start. A failure is reported at the end of the notes. -/
def outcome (w : World) (job : Job Unit) : Outcome :=
  match job.on ⟨w, [], []⟩ with
  | (.ok (), p) => ⟨0, p.output, p.notes, p.world.files⟩
  | (.error f, p) => ⟨1, p.output, p.notes ++ Text.toUtf8 f.report, p.world.files⟩

end Job

end Formulary.Command

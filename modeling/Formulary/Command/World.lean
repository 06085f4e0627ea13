import Formulary.Command.Failure
import Formulary.Editor.External
import Formulary.Files.Tree
import Formulary.Sample.KeyStream
import Formulary.Sample.Rule
import Formulary.Session.Encoding

/-!
What a run of the program starts from and what it comes to. A command goes through stages, and the
first that fails ends it.
-/

namespace Formulary.Command

open Session Files

/-- What the program finds around it. -/
structure World where
  files : Tree
  configPath : Option String
  /-- The editors that the environment names. -/
  visual : Option String
  editor : Option String
  /-- The one who edits from the command line. -/
  author : Author
  programs : Editor.Programs
  encoder : Encoder
  almanac : Sample.Almanac
  /-- The key for values that are invented without a seed. -/
  entropy : Sample.Key

/-- What a run comes to. -/
structure Outcome where
  status : Nat
  output : List UInt8
  /-- What is printed beside the output. -/
  notes : List UInt8
  files : Tree

abbrev Stage := Except Failure

def inSession {α : Type} (r : Except Fault α) : Stage α :=
  r.mapError fun fault => ⟨none, .session fault⟩

def duringTask {α : Type} (task : Task) (r : Except Fault α) : Stage α :=
  r.mapError fun fault => ⟨some task, .session fault⟩

def fileTask {α : Type} (task : Task) (r : Except FileFault α) : Stage α :=
  r.mapError fun fault => ⟨some task, .file fault⟩

end Formulary.Command

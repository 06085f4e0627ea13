import Formulary.Command.World
import Formulary.Config.Reader
import Formulary.Session.Basic
import Formulary.Toml.Tagged

/-!
The files that the program reads: configurations, templates, records and values.
-/

namespace Formulary.Command

open Session Files

/-- The configuration in the working directory, if there is one. -/
def usualConfig : String := "minuta.toml"

def configAt (files : Tree) (path : String) : Except Fault Config := do
  let text ← (files.readText path).mapError .file
  (Config.parseUsable text).mapError .config

/-- The configuration of a run: the one that is asked for, or the usual one where it is a file. -/
def loadConfig (w : World) : Option String → Stage Config
  | some path => duringTask (.loadConfig path) (configAt w.files path)
  | none =>
    if w.files.isFile usualConfig then inSession (configAt w.files usualConfig)
    else .ok Config.standard

/-- A session with a template from a file. -/
def openSession (w : World) (config : Config) (template : String) : Stage Session := do
  let content ← fileTask (.readTemplate template) (w.files.read template)
  inSession ((Session.start config).loadTemplate convertText (fileName template) content.bytes)

def storeAt (files : Tree) (path : String) : Except Fault Record.Store := do
  let text ← (files.readText path).mapError .file
  (Record.Store.parse text).mapError .store

def inKeyOrder {α : Type} (entries : List (String × α)) : List (String × α) :=
  entries.mergeSort fun a b => a.1 ≤ b.1

/-- The texts of values, up to the first that is not a single one. -/
def scalarTexts (path : String) : List (String × Toml.Value) → Stage (List (String × String))
  | [] => .ok []
  | (name, v) :: rest =>
    match v.scalarText? with
    | some text => ((name, text) :: ·) <$> scalarTexts path rest
    | none => .error ⟨none, .notScalar name path⟩

/-- The values in a file, in the order of their names. -/
def valuesAt (files : Tree) (path : String) : Stage (List (String × String)) := do
  let text ← fileTask (.readValues path) (files.readText path)
  match Toml.parseTagged text with
  | some entries => scalarTexts path (inKeyOrder entries)
  | none => .error ⟨none, .unreadableValues path⟩

end Formulary.Command

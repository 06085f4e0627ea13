import Formulary.Command.Input
import Formulary.Command.Request
import Formulary.Sample.KeyStream

/-!
The values of a template, from up to four sources: invented ones, those of a record, those of a file
and those of the command line. Each source is laid over those before it.
-/

namespace Formulary.Command

open Session Files

def setValues (s : Session) : List (String × String) → Except Fault Session
  | [] => .ok s
  | (name, value) :: rest => do
    let s ← s.setValue name value
    setValues s rest

/-- What values are invented from: the stream of a seed, if one is given. -/
def wordsFor (w : World) (sources : ValueSources) : Sample.KeyStream :=
  match sources.seed with
  | some seed => .ofSeed (UInt64.ofNat seed)
  | none => ⟨w.entropy, 0⟩

/-- Invented values, if they are asked for. -/
def applyInvented (w : World) (sources : ValueSources) (s : Session) : Stage Session :=
  if sources.autofill then do
    let rules := Sample.standardRules w.almanac
    let (_, s) ← inSession (s.autofill rules (wordsFor w sources))
    pure s
  else .ok s

def applyRecord (w : World) (sources : ValueSources) (s : Session) : Stage Session :=
  match sources.record with
  | some (id, path) => do
    let store ← duringTask (.loadRecords path) (storeAt w.files path)
    let (_, s) ← inSession (s.loadRecord (lookupIn store) id)
    pure s
  | none => .ok s

def applyFile (w : World) (sources : ValueSources) (s : Session) : Stage Session :=
  match sources.values with
  | some path => do
    let entries ← valuesAt w.files path
    inSession (setValues s entries)
  | none => .ok s

/-- The values of all sources, each over those before it: invented ones, a record, a file, and those
of the command line. -/
def applyValues (w : World) (sources : ValueSources) (s : Session) : Stage Session := do
  let s ← applyInvented w sources s
  let s ← applyRecord w sources s
  let s ← applyFile w sources s
  inSession (setValues s sources.assignments)

end Formulary.Command

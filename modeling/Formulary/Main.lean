import Formulary.Command.Run
import Std.Time.DateTime.Timestamp

/-!
The program on a system. It takes over the files that the command line names, does its work on them
there, and puts back what has changed. Files are taken for what their octets are, and devices are
left alone. Neither programs to edit with nor an encoder of documents come with it, so that an edit
finds no program, and an export ends when its document is to be written.
-/

namespace Formulary.Main

open Command Files

/-- What stands at a path of the system, if it can be read. -/
def nodeAt (path : String) : IO (Option Node) := do
  try
    let bytes ← IO.FS.readBinFile path
    pure (some (.file (.octets bytes.toList)))
  catch
    | .noFileOrDirectory .. => pure none
    | .inappropriateType .. => pure (some .directory)
    | _ => pure none

def parentOf (path : String) : String :=
  let parent := joined (parts path).dropLast
  if parent.isEmpty then (if path.startsWith "/" then "/" else ".") else parent

/-- The tree of the files and directories at some paths. -/
def snapshot (paths : List String) : IO Tree :=
  (paths.map parentOf ++ paths).foldlM (fun t path => do
    if (t.device? path).isSome then return t
    match ← nodeAt path with
    | some node => pure (t.plant path node)
    | none => pure t) Table.empty

/-- The paths that a command line is about. -/
def pathsOf (configPath : Option String) (arguments : List String) : List String :=
  match asked configPath arguments with
  | .run config request => config.getD usualConfig :: request.paths
  | _ => []

/-- Puts back what stands in `after` and not in `before`. -/
def putBack (before after : Tree) : IO Unit :=
  after.entries.forM fun (path, node) => do
    unless before.get? path = some node do
      match node with
      | .directory => IO.FS.createDirAll path
      | .device _ => pure ()
      | .file content => IO.FS.writeBinFile path ⟨content.bytes.toArray⟩

def today : IO Calendar.Date := do
  let now ← Std.Time.Timestamp.now
  let epoch : Calendar.Date := ⟨1970, 1, 1⟩
  pure (epoch.later now.toDaysSinceUnixEpoch.toInt.toNat)

/-- A key that cannot be foreseen. -/
def freshKey : IO Sample.Key := do
  let bytes ← IO.getRandomBytes 32
  let octet (i : Nat) : UInt32 := (bytes[i]?.getD 0).toUInt32
  pure (Vector.ofFn fun i => (List.range 4).foldr (fun k n => n * 256 + octet (4 * i + k)) 0)

/-- The one who edits: whoever is logged in. The number that the system gives to this run is not to be
had here. -/
def author : IO Session.Author := do
  let name ← IO.getEnv "USER"
  pure ⟨0, name.getD "minuta"⟩

end Formulary.Main

open Formulary Formulary.Main

def main (arguments : List String) : IO UInt32 := do
  let configPath ← IO.getEnv "MINUTA_CONFIG"
  let files ← snapshot (pathsOf configPath arguments)
  let world : Command.World := {
    files, configPath
    visual := ← IO.getEnv "VISUAL"
    editor := ← IO.getEnv "EDITOR"
    author := ← author
    programs := .none
    encoder := fun _ _ _ => .error (.document "no encoder")
    almanac := .on (← today)
    entropy := ← freshKey }
  let outcome := Command.run world arguments
  putBack files outcome.files
  (← IO.getStdout).write ⟨outcome.output.toArray⟩
  (← IO.getStderr).write ⟨outcome.notes.toArray⟩
  pure (UInt32.ofNat outcome.status)

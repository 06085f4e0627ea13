import Formulary.Editor.Basic
import Formulary.Files.Tree

/-!
Programs as editors. A text is put into a file of its own, the program is run on that file, and what
the file holds afterwards is the edit, if it is anything else than before. A program has the run of
the system while it edits: it prints where whoever started it prints, and it may change any file. All
of that stays, however it ends.
-/

namespace Formulary.Editor

open Files

/-- What a program leaves behind beside its own file. -/
structure Traces where
  output : List UInt8
  /-- What it printed beside the output. -/
  notes : List UInt8
  /-- The files, as it left them. -/
  files : Tree
deriving DecidableEq, Repr

def Traces.none (files : Tree) : Traces := ⟨[], [], files⟩

/-- What comes of a program that was run on a file of its own. -/
structure Ending where
  status : Status
  /-- What its file holds, or why that cannot be read. -/
  file : Except FileFault (List UInt8)
  traces : Traces

structure Programs where
  /-- Why there is no file for a text to be edited in. -/
  fileFault? : List UInt8 → Option FileFault
  /-- Runs a program, with a file that holds some octets as its last argument, among the files of the
  system; or tells why it cannot be run. -/
  run : Tree → Program → List UInt8 → Except FileFault Ending

def Programs.none : Programs := ⟨fun _ => .none, fun _ _ _ => .error .notFound⟩

/-- Starts a program, if its name and its arguments can be handed to the system. -/
def Programs.start (programs : Programs) (files : Tree) (p : Program) (file : List UInt8) :
    Except FileFault Ending :=
  if (p.name :: p.arguments).any fun s => '\x00' ∈ s.toList then .error .zeroCharacter
  else programs.run files p file

/-- What a file holds, as an edit of what was put into it; nothing where that is all there is. -/
def editOf (given : String) (file : Except FileFault (List UInt8)) :
    Except EditFault (Option String) :=
  match file with
  | .error fault => .error (.file fault)
  | .ok bytes =>
    match Text.ofUtf8 bytes with
    | .error _ => .error (.file .notText)
    | .ok edited => .ok (if edited = given then none else some edited)

/-- Has a program edit a text, and tells what it leaves. -/
def editBy (programs : Programs) (p : Program) (files : Tree) (html : String) :
    Except EditFault (Option String) × Traces :=
  let file := Text.toUtf8 html
  match programs.fileFault? file with
  | some fault => (.error (.file fault), .none files)
  | none =>
    match programs.start files p file with
    | .error fault => (.error (.editor (.cannotRun p.name fault)), .none files)
    | .ok ending =>
      (if ending.status.isSuccess then editOf html ending.file
        else .error (.editor (.ended p.name ending.status)), ending.traces)

end Formulary.Editor

import Formulary.Config.Basic
import Formulary.Files.Fault
import Formulary.Text.Blank

/-!
What editors are shown, and why editing fails. Which program edits is settled by the configuration
and the environment: the first command line among them that has been set, unless that one is blank.
-/

namespace Formulary.Editor

/-! ## Programs that ended -/

inductive Status where
  | exited (code : UInt8)
  /-- A signal ended it, and its memory may have been dumped. -/
  | killed (signal : Nat) (dumped : Bool)
deriving DecidableEq, Repr

def Status.isSuccess (s : Status) : Bool := s == .exited 0

/-- Signals by number, from 1. -/
def signalNames : List String :=
  ["SIGHUP", "SIGINT", "SIGQUIT", "SIGILL", "SIGTRAP", "SIGABRT", "SIGBUS", "SIGFPE", "SIGKILL",
    "SIGUSR1", "SIGSEGV", "SIGUSR2", "SIGPIPE", "SIGALRM", "SIGTERM", "SIGSTKFLT", "SIGCHLD",
    "SIGCONT", "SIGSTOP", "SIGTSTP", "SIGTTIN", "SIGTTOU", "SIGURG", "SIGXCPU", "SIGXFSZ",
    "SIGVTALRM", "SIGPROF", "SIGWINCH", "SIGIO", "SIGPWR", "SIGSYS"]

def signalName? : Nat → Option String
  | 0 => none
  | n + 1 => signalNames[n]?

def Status.text : Status → String
  | exited code => "exit status: " ++ toString code.toNat
  | killed signal dumped =>
    "signal: " ++ toString signal ++
      ((signalName? signal).elim "" fun name => " (" ++ name ++ ")") ++
      (if dumped then " (core dumped)" else "")

/-! ## Faults -/

inductive EditorFault where
  /-- A command line without a program. -/
  | noProgram
  /-- No command line is to be had. -/
  | noneConfigured
  | cannotRun (program : String) (fault : Files.FileFault)
  /-- The program was run, and did not end well. -/
  | ended (program : String) (status : Status)
  /-- Reported by the editor, in its own words. -/
  | told (reason : String)
deriving DecidableEq, Repr

def EditorFault.message : EditorFault → String
  | noProgram => "editor command is empty"
  | noneConfigured => "no editor configured; set [editor] command, $VISUAL or $EDITOR"
  | cannotRun program fault => "failed to run " ++ program ++ ": " ++ fault.message
  | ended program status => program ++ " exited with status: " ++ status.text
  | told reason => reason

/-- Why an edit comes to nothing: the editor failed, or the file that it was given. -/
inductive EditFault where
  | editor (fault : EditorFault)
  | file (fault : Files.FileFault)
deriving DecidableEq, Repr

/-- What an editor is shown. -/
structure EditRequest where
  html : String
  settings : Config.EditorSettings
deriving DecidableEq, Repr

/-! ## The program to edit with -/

structure Program where
  name : String
  arguments : List String
deriving DecidableEq, Repr

/-- The program that a command line names: its first word, with the others as arguments. -/
def Program.ofCommandLine (line : String) : Except EditorFault Program :=
  match Text.words line with
  | name :: arguments => .ok ⟨name, arguments⟩
  | [] => .error .noProgram

/-- The program to edit with, out of the command lines of the configuration and of the
environment. -/
def Program.choose (configured visual editor : Option String) : Except EditorFault Program :=
  match (configured <|> visual <|> editor).filter fun line => !Text.allBlank line with
  | some line => Program.ofCommandLine line
  | none => .error .noneConfigured

end Formulary.Editor

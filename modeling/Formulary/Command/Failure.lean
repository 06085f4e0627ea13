import Formulary.Session.Fault

/-!
How the program reports a failure: what it was doing, what went wrong, and what had gone wrong below
that. A report ends with its line, unless it breaks off where the words for an unreadable text would
stand.
-/

namespace Formulary.Command

open Session

/-- What stopped the program. -/
inductive Cause where
  | session (fault : Fault)
  | render (fault : Render.RenderFault)
  | file (fault : Files.FileFault)
  /-- A file with values that is no TOML. -/
  | unreadableValues (path : String)
  | notScalar (name path : String)
deriving DecidableEq, Repr

inductive Task where
  | loadConfig (path : String)
  | readTemplate (path : String)
  | loadRecords (path : String)
  | readValues (path : String)
  | write (path : String)
deriving DecidableEq, Repr

def Task.text : Task → String
  | loadConfig path => "failed to load config " ++ path
  | readTemplate path => "failed to read template " ++ path
  | loadRecords path => "failed to load records " ++ path
  | readValues path => "failed to read values " ++ path
  | write path => "failed to write " ++ path

structure Failure where
  during : Option Task
  cause : Cause
deriving DecidableEq, Repr

/-- A render fault, and what is below it. -/
def renderChain (fault : Render.RenderFault) : List String :=
  match fault with
  | .file below => [fault.message, below.message]
  | _ => [fault.message]

def faultChain (fault : Fault) : List String :=
  match fault with
  | .template issue => [fault.message, issue.message]
  | .render below => fault.message :: renderChain below
  | .file below => [fault.message, below.message]
  | .passedOn fault => faultChain fault
  | _ => [fault.message]

/-- What went wrong, from the top down. -/
def Cause.chain : Cause → List String
  | session fault => faultChain fault
  | render fault => renderChain fault
  | file fault => [fault.message]
  | unreadableValues path => ["failed to parse values " ++ path ++ ":"]
  | notScalar name path => ["value '" ++ name ++ "' in " ++ path ++ " must be a scalar"]

/-- Whether the report breaks off. -/
def Cause.isOpen : Cause → Bool
  | session fault => fault.isOpen
  | unreadableValues _ => true
  | _ => false

def Failure.report (f : Failure) : String :=
  let during := match f.during with
    | some task => [task.text]
    | none => []
  "Error: " ++ ": ".intercalate (during ++ f.cause.chain) ++ (if f.cause.isOpen then "" else "\n")

end Formulary.Command

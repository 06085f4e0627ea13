import Formulary.Template.Fill
import Formulary.Text.Search

/-!
Templates: HTML with placeholders, and what a reading of it finds. The variables are the names of
the placeholders, each once; a placeholder without a name is an issue, which keeps the template from
being filled.
-/

namespace Formulary.Template

inductive Issue where
  /-- Nothing but white space between the braces. -/
  | nameless (offset line : Nat)
deriving DecidableEq, Repr

def Issue.message : Issue → String
  | nameless offset line =>
    "Empty placeholder at line " ++ toString line ++ " (byte " ++ toString offset ++
      "). Give it a name like \x7b\x7bnome\x7d\x7d or remove it"

/-- Each name once, in order of first arrival. -/
def distinct (names : List String) : List String :=
  names.foldl (fun seen name => if name ∈ seen then seen else seen ++ [name]) []

/-- What a reading of a template finds. -/
structure Reading where
  /-- The names of the placeholders in order of first arrival. -/
  names : List String
  issues : List Issue
deriving DecidableEq, Repr

def scan (html : String) : Reading where
  names := distinct (((tokens html).filter fun t => !t.isNameless).map Token.name)
  issues := ((tokens html).filter Token.isNameless).map fun t => .nameless t.start t.line

/-- The names of the placeholders, or the first issue. -/
def extractNames (html : String) : Except Issue (List String) :=
  match (scan html).issues with
  | [] => .ok (scan html).names
  | first :: _ => .error first

def blankValues (names : List String) : Values := Table.ofList (names.map (·, ""))

/-- A titled template, and what a reading of its text found. -/
structure Form where
  title : String
  actType : String
  html : String
  reading : Reading
deriving DecidableEq, Repr

namespace Form

/-- A form with the reading of its text. -/
def ofHtml (title actType html : String) : Form := ⟨title, actType, html, scan html⟩

def names (t : Form) : List String := t.reading.names

def issues (t : Form) : List Issue := t.reading.issues

def isBlocked (t : Form) : Bool := !t.issues.isEmpty

def blankValues (t : Form) : Values := Template.blankValues t.names

end Form

/-- The title of a form that was uploaded under a file name: without the ending of a word
processor's file, and with blanks for underscores. -/
def titleOfFileName (fileName : String) : String :=
  Text.replaceChars (· == '_') ' ' (Text.dropEnding ".docx" fileName)

end Formulary.Template

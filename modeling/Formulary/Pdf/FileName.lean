import Formulary.Text.Blank
import Formulary.Text.Search

/-!
File names of finished documents: a prefix and the title, in which no white space and no path
separator is left.
-/

namespace Formulary.Pdf

def untitled : String := "documento"

/-- What a file name does not take over from a title. -/
def isUnfitForFileName (c : Char) : Bool := Text.isBlank c || c == '/' || c == '\\'

/-- The title part of a file name. -/
def fileStem (title : String) : String :=
  let trimmed := Text.trim title
  Text.replaceChars isUnfitForFileName '_' (if trimmed.isEmpty then untitled else trimmed)

/-- The file name of a document with a title. -/
def fileName (opening title : String) : String := opening ++ "-" ++ fileStem title ++ ".pdf"

end Formulary.Pdf

import Formulary.Command.Help
import Formulary.Json.Writer
import Formulary.Page.Band
import Formulary.Session.Basic

/-!
What the program prints when all went well: for people in lines, for programs in JSON.
-/

namespace Formulary.Command

open Number Session

/-- A number in JSON, or `null` for what is none. -/
def jsonReal (x : Binary64) : Json.Value := if x.isFinite then .number (.real x) else .null

def jsonNat (n : Nat) : Json.Value := .number (.whole n)

def jsonTexts (texts : List String) : Json.Value := .array (texts.map .string)

def jsonLines (v : Json.Value) : String := Json.write v ++ "\n"

def varsReport (form : Template.Form) (json : Bool) : String :=
  let issues := form.issues.map Template.Issue.message
  if json then
    jsonLines (.object [("title", .string form.title), ("act_type", .string form.actType),
      ("variables", jsonTexts form.names), ("issues", jsonTexts issues)])
  else
    lines (["→ " ++ form.title ++ " (" ++ toString form.names.length ++ " variables)"] ++
      form.names.map ("  " ++ ·) ++ issues.map ("✗ " ++ ·) ++
      (if form.isBlocked then ["", "! Fix the placeholders above before generating"] else []))

def sliceJson (s : Page.Slice Binary64) : Json.Value :=
  .object [("index", jsonNat s.index), ("source_y_offset", jsonReal s.offset),
    ("source_height", jsonReal s.height), ("is_first_page", .bool s.isFirst)]

def planJson (p : Page.Plan Binary64) : Json.Value :=
  .object [
    ("page", .object [("width", jsonReal p.page.width), ("height", jsonReal p.page.height)]),
    ("source_width", jsonNat p.sourceWidth), ("source_height", jsonNat p.sourceHeight),
    ("scaled_height", jsonReal p.scaledHeight), ("slices", .array (p.slices.map sliceJson))]

def sliceLine (s : Page.Slice Binary64) (b : Page.Band) : String :=
  "  page " ++ toString (s.index + 1) ++ ": " ++ s.offset.fixedOne ++ ".." ++
    (s.offset + s.height).fixedOne ++ " mm  (rows " ++ toString b.top ++ ".." ++
    toString b.bottom ++ ")"

def planReport (p : Page.Plan Binary64) (json : Bool) : String :=
  if json then jsonLines (planJson p)
  else
    lines (("→ " ++ toString p.sourceWidth ++ "x" ++ toString p.sourceHeight ++ " px on " ++
      p.page.width.toText ++ "x" ++ p.page.height.toText ++ " mm pages: " ++
      p.scaledHeight.fixedOne ++ " mm tall, " ++ toString p.pageCount ++ " page(s)") ::
      List.zipWith sliceLine p.slices p.bands)

/-- A saved document, which takes so many octets. -/
def exportReport (path : String) (e : Exported) (size : Nat) (json : Bool) : String :=
  if json then
    jsonLines (.object [("path", .string path), ("file_name", .string e.fileName),
      ("pages", jsonNat e.pageCount), ("bytes", jsonNat size)])
  else
    "✓ Saved " ++ path ++ " (" ++ toString e.pageCount ++ " page" ++
      (if e.pageCount = 1 then "" else "s") ++ ")\n"

end Formulary.Command

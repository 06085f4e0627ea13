import Formulary.Number.Layout
import Formulary.Page.Size
import Formulary.Pdf.FileName
import Formulary.Record.Normalize

/-!
The configuration of the program. Every setting has a value to start from, so that a configuration
may leave out any of them.
-/

namespace Formulary.Config

open Number

inductive PageFormat where
  | a4
  | letter
  /-- Of the width and height that the configuration gives. -/
  | custom
deriving DecidableEq, Repr

/-- How pages are laid out and pictures stored. -/
structure PageSettings where
  format : PageFormat
  /-- Width and height in millimetres; only a custom format looks at them. -/
  width : Option Binary64
  height : Option Binary64
  /-- How many pixels of a capture there are to a pixel of the layout. -/
  scale : Binary32
  quality : Nat
deriving DecidableEq, Repr

inductive SizeFault where
  | noWidth
  | noHeight
  | notPositive (page : Page.Size Binary64)
deriving DecidableEq, Repr

inductive ConfigFault where
  /-- The text is no TOML, or a setting is of the wrong kind. -/
  | unreadable
  | size (fault : SizeFault)
deriving DecidableEq, Repr

def SizeFault.field : SizeFault → String
  | noWidth => "page.width_mm"
  | noHeight => "page.height_mm"
  | notPositive _ => "page"

def SizeFault.reason : SizeFault → String
  | notPositive page =>
    "page size must be positive, got " ++ page.width.toText ++ "x" ++ page.height.toText ++ " mm"
  | _ => "required when format = \"custom\""

/-- The fault in words. What is wrong with an unreadable text is not told. -/
def ConfigFault.message : ConfigFault → String
  | unreadable => "CONFIG_PARSE_ERROR:"
  | size fault => "CONFIG_INVALID_VALUE: " ++ fault.field ++ ": " ++ fault.reason

namespace PageSettings

def standard : PageSettings := ⟨.a4, none, none, Scalar.ofNat 2, 92⟩

def size (s : PageSettings) : Except SizeFault (Page.Size Binary64) :=
  match s.format with
  | .a4 => .ok Page.Size.a4
  | .letter => .ok Page.Size.letter
  | .custom =>
    match s.width, s.height with
    | none, _ => .error .noWidth
    | some _, none => .error .noHeight
    | some width, some height =>
      let page : Page.Size Binary64 := ⟨width, height⟩
      if page.isValid then .ok page else .error (.notPositive page)

end PageSettings

/-- How finished documents are named. -/
structure OutputSettings where
  /-- What file names begin with. -/
  opening : String
  defaultTitle : String
  actType : String
deriving DecidableEq, Repr

def OutputSettings.standard : OutputSettings := ⟨"Certidao", Pdf.untitled, "Documento"⟩

/-- A family of typefaces, under the name that an editor shows. -/
structure FontFamily where
  label : String
  stack : String
deriving DecidableEq, Repr

/-- How an editor presents a document. -/
structure EditorSettings where
  width : Nat
  height : Nat
  toolbar : List String
  fontSizes : List String
  fontFamilies : List FontFamily
  baseFontSize : String
  spellcheck : Bool
  /-- The program to edit with, and its arguments. -/
  command : Option String
deriving DecidableEq, Repr

def standardToolbar : List String :=
  ["undo", "redo", "formatselect", "fontfamily", "fontsize", "link", "bold", "italic", "forecolor",
   "underline", "align", "bullist", "numlist", "outdent", "indent", "removeformat", "preview",
   "fullscreen", "searchreplace", "code", "charmap"]

def standardFontSizes : List String :=
  [4, 5, 6, 7, 8, 9, 10, 12, 14, 16, 18, 20, 22, 24, 26, 28, 30, 32, 34, 36].map
    fun points : Nat => toString points ++ "pt"

def standardFontFamilies : List FontFamily :=
  [⟨"Times New Roman", "Times New Roman, Times, serif"⟩,
   ⟨"Arial", "Arial, Helvetica, sans-serif"⟩,
   ⟨"Calibri", "Calibri, sans-serif"⟩,
   ⟨"Courier New", "Courier New, Courier, monospace"⟩,
   ⟨"Georgia", "Georgia, serif"⟩,
   ⟨"Verdana", "Verdana, Geneva, sans-serif"⟩]

/-- A page of A4 on a screen of 96 dots to the inch. -/
def EditorSettings.standard : EditorSettings where
  width := 794
  height := 1123
  toolbar := standardToolbar
  fontSizes := standardFontSizes
  fontFamilies := standardFontFamilies
  baseFontSize := "12pt"
  spellcheck := true
  command := none

end Formulary.Config

namespace Formulary

structure Config where
  page : Config.PageSettings
  style : Template.Style
  output : Config.OutputSettings
  records : Record.Conventions
  editor : Config.EditorSettings
deriving DecidableEq, Repr

/-- The configuration that leaves everything out. -/
def Config.standard : Config :=
  ⟨.standard, .standard, .standard, .standard, .standard⟩

end Formulary

import Formulary.Table
import Formulary.Template.Token
import Formulary.Text.Markup

/-!
Filling a template: every placeholder whose name has a value gives way to that value, marked up so
that it stands out, and all other text stays as it is. The text is read once, front to back, and
what has been written is never read again.
-/

namespace Formulary.Template

/-- The values of placeholders by name, in the order in which the names arrived. -/
abbrev Values := Table String

/-- How values are shown. -/
structure Style where
  /-- Shown in place of an empty value. -/
  sentinel : String
  /-- The style attribute around every value. -/
  highlight : String
deriving DecidableEq, Repr

namespace Style

/-- A blank line to write on, and bold type. -/
def standard : Style := ⟨"__________", "font-weight: bold;"⟩

def span (style : Style) (value : String) : String :=
  "<span style=\"" ++ Text.escapeAttribute style.highlight ++ "\">" ++
    Text.escapeText (if value.isEmpty then style.sentinel else value) ++ "</span>"

end Style

/-- Fills the text from `cursor` on, in which the placeholders `tokens` stand. The cursor moves past
a placeholder only when it is replaced; one without a value is copied with the text around it. -/
def fillFrom (bytes : ByteArray) (values : Values) (style : Style) (cursor : Nat) :
    List Token → String
  | [] => Text.slice bytes cursor bytes.size
  | t :: rest =>
    match values.get? t.name with
    | none => fillFrom bytes values style cursor rest
    | some value =>
      Text.slice bytes cursor t.start ++ (style.span value ++
        fillFrom bytes values style t.stop rest)

/-- The text with every placeholder replaced whose name has a value. -/
def fill (html : String) (values : Values) (style : Style) : String :=
  fillFrom html.toByteArray values style 0 (tokens html)

/-- A text cut at its placeholders. -/
inductive Piece where
  | literal (text : String)
  | placeholder (token : Token) (source : String)
deriving DecidableEq, Repr

namespace Piece

/-- The piece as it stands in the text it was cut from. -/
def source : Piece → String
  | literal text => text
  | placeholder _ source => source

/-- The piece as it stands in the filled text. -/
def filled (values : Values) (style : Style) : Piece → String
  | literal text => text
  | placeholder token source =>
    match values.get? token.name with
    | none => source
    | some value => style.span value

end Piece

/-- The pieces of a text from `cursor` on: literal text and placeholders in turn. -/
def piecesFrom (bytes : ByteArray) (cursor : Nat) : List Token → List Piece
  | [] => [.literal (Text.slice bytes cursor bytes.size)]
  | t :: rest =>
    .literal (Text.slice bytes cursor t.start) ::
      .placeholder t (Text.slice bytes t.start t.stop) :: piecesFrom bytes t.stop rest

def pieces (html : String) : List Piece := piecesFrom html.toByteArray 0 (tokens html)

end Formulary.Template

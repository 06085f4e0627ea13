import Formulary.Text.LetterCase

/-!
Texts in small letters. Two letters need more than a table: a capital I with a dot keeps its dot as
a mark of its own, and a capital sigma becomes a final one at the end of a word.
-/

namespace Formulary.Text

/-- Whether the next character that is not passed over has case. -/
def nextIsCased (s : List Char) : Bool := ((s.dropWhile isPassedOver).head?.map isCased).getD false

/-- A text in small letters; `before` is the text in front of it, the last character first. -/
def lowercaseFrom (before : List Char) : List Char → List Char
  | [] => []
  | c :: s =>
    let small :=
      if c = 'İ' then ['i', '\u0307']
      else if c = 'Σ' then (if nextIsCased before && !nextIsCased s then ['ς'] else ['σ'])
      else [smallLetter c]
    small ++ lowercaseFrom (c :: before) s

def lowercase (s : String) : String := String.ofList (lowercaseFrom [] s.toList)

end Formulary.Text

import Formulary.Text.Visible

/-!
Texts in double quotes, for a reader who has to see where they end: double quotes and backslashes
stand behind a backslash, and what is not to be seen by itself is written by its code.
-/

namespace Formulary.Text

/-- The written form of a character between quotes. -/
def quotedChar : Char → List Char
  | '\x00' => ['\\', '0']
  | '\t' => ['\\', 't']
  | '\n' => ['\\', 'n']
  | '\r' => ['\\', 'r']
  | '"' => ['\\', '"']
  | '\\' => ['\\', '\\']
  | c =>
    if isUnseen c || isJoined c then
      ['\\', 'u', '\x7b'] ++ Nat.toDigits 16 c.toNat ++ ['\x7d']
    else [c]

def quoted (s : String) : String := "\"" ++ String.ofList (s.toList.flatMap quotedChar) ++ "\""

end Formulary.Text

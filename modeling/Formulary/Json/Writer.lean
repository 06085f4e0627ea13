import Formulary.Json.Basic

/-!
Writing JSON texts for people to read: two blanks for each level, one element or member to a line,
and characters beyond ASCII as they are.
-/

namespace Formulary.Json

def hexDigit (n : Nat) : Char := Nat.digitChar n

def writeChar (c : Char) : List Char :=
  match c with
  | '"' => ['\\', '"']
  | '\\' => ['\\', '\\']
  | '\x08' => ['\\', 'b']
  | '\x0c' => ['\\', 'f']
  | '\n' => ['\\', 'n']
  | '\r' => ['\\', 'r']
  | '\t' => ['\\', 't']
  | _ =>
    if c.toNat < 0x20 then
      ['\\', 'u', '0', '0', hexDigit (c.toNat / 16), hexDigit (c.toNat % 16)]
    else [c]

def quote (s : String) : String := "\"" ++ String.ofList (s.toList.flatMap writeChar) ++ "\""

def lineAt (level : Nat) : String := "\n" ++ String.ofList (List.replicate (2 * level) ' ')

mutual

def writeAt (level : Nat) : Value → String
  | .null => "null"
  | .bool b => if b then "true" else "false"
  | .number n => n.toText
  | .string s => quote s
  | .array [] => "[]"
  | .array (v :: vs) =>
    "[" ++ lineAt (level + 1) ++ writeAt (level + 1) v ++ writeElements (level + 1) vs ++
      lineAt level ++ "]"
  | .object [] => "\x7b\x7d"
  | .object ((key, v) :: members) =>
    "\x7b" ++ lineAt (level + 1) ++ quote key ++ ": " ++ writeAt (level + 1) v ++
      writeMembers (level + 1) members ++ lineAt level ++ "\x7d"

/-- Elements behind the first. -/
def writeElements (level : Nat) : List Value → String
  | [] => ""
  | v :: vs => "," ++ lineAt level ++ writeAt level v ++ writeElements level vs

def writeMembers (level : Nat) : List (String × Value) → String
  | [] => ""
  | (key, v) :: members =>
    "," ++ lineAt level ++ quote key ++ ": " ++ writeAt level v ++ writeMembers level members

end

def write (v : Value) : String := writeAt 0 v

end Formulary.Json

import Formulary.Json.Numeral

/-!
Reading JSON texts: the grammar of the standard and nothing beside it. Containers may stand inside
one another 127 deep. A repeated key keeps its first place and takes the last value.
-/

namespace Formulary.Json

/-- The deepest nesting of arrays and objects. -/
def deepest : Nat := 127

def isSpace (c : Char) : Bool := c = ' ' || c = '\t' || c = '\n' || c = '\r'

def skipSpace (s : List Char) : List Char := s.dropWhile isSpace

def readHex4 : List Char → Option (Nat × List Char)
  | a :: b :: c :: d :: rest => do
    let a ← Text.hexValue? a
    let b ← Text.hexValue? b
    let c ← Text.hexValue? c
    let d ← Text.hexValue? d
    some (((a * 16 + b) * 16 + c) * 16 + d, rest)
  | _ => none

/-- The character that one letter behind a backslash means. -/
def escapeLetter? : Char → Option Char
  | '"' => some '"'
  | '\\' => some '\\'
  | '/' => some '/'
  | 'b' => some '\x08'
  | 'f' => some '\x0c'
  | 'n' => some '\n'
  | 'r' => some '\r'
  | 't' => some '\t'
  | _ => none

/-- The character that stands behind a backslash, and the rest. Surrogates come in pairs. -/
def readEscape : List Char → Option (Char × List Char)
  | 'u' :: rest => do
    let (unit, rest) ← readHex4 rest
    if 0xD800 ≤ unit ∧ unit < 0xDC00 then
      match rest with
      | '\\' :: 'u' :: rest => do
        let (low, rest) ← readHex4 rest
        if 0xDC00 ≤ low ∧ low < 0xE000 then
          some (Char.ofNat (0x10000 + (unit - 0xD800) * 0x400 + (low - 0xDC00)), rest)
        else none
      | _ => none
    else if 0xDC00 ≤ unit ∧ unit < 0xE000 then none
    else some (Char.ofNat unit, rest)
  | c :: rest => (escapeLetter? c).map (·, rest)
  | [] => none

/-- The rest of a string up to its closing quote, and what follows. -/
def readString : Nat → List Char → Option (List Char × List Char)
  | 0, _ => none
  | _ + 1, [] => none
  | fuel + 1, c :: rest =>
    if c = '"' then some ([], rest)
    else if c = '\\' then do
      let (c, rest) ← readEscape rest
      let (s, rest) ← readString fuel rest
      some (c :: s, rest)
    else if c.toNat < 0x20 then none
    else do
      let (s, rest) ← readString fuel rest
      some (c :: s, rest)

mutual

/-- A value whose first character is the next one. -/
def readValue : Nat → Nat → List Char → Option (Value × List Char)
  | 0, _, _ => none
  | _ + 1, _, [] => none
  | fuel + 1, depth, c :: rest =>
    match c with
    | 'n' => if "ull".toList.isPrefixOf rest then some (.null, rest.drop 3) else none
    | 't' => if "rue".toList.isPrefixOf rest then some (.bool true, rest.drop 3) else none
    | 'f' => if "alse".toList.isPrefixOf rest then some (.bool false, rest.drop 4) else none
    | '"' => do
      let (s, rest) ← readString fuel rest
      some (.string (String.ofList s), rest)
    | '[' =>
      if depth = 0 then none
      else match skipSpace rest with
        | ']' :: rest => some (.array [], rest)
        | rest => do
          let (elements, rest) ← readElements fuel (depth - 1) rest
          some (.array elements, rest)
    | '\x7b' =>
      if depth = 0 then none
      else match skipSpace rest with
        | '\x7d' :: rest => some (.object [], rest)
        | rest => do
          let (members, rest) ← readMembers fuel (depth - 1) [] rest
          some (.object members, rest)
    | _ => do
      let (n, rest) ← readNumber (c :: rest)
      some (.number n, rest)

def readElements : Nat → Nat → List Char → Option (List Value × List Char)
  | 0, _, _ => none
  | fuel + 1, depth, s => do
    let (v, rest) ← readValue fuel depth s
    match skipSpace rest with
    | ']' :: rest => some ([v], rest)
    | ',' :: rest => do
      let (vs, rest) ← readElements fuel depth (skipSpace rest)
      some (v :: vs, rest)
    | _ => none

/-- The members of an object up to its closing brace, behind the members read before them. -/
def readMembers : Nat → Nat → List (String × Value) → List Char →
    Option (List (String × Value) × List Char)
  | 0, _, _, _ => none
  | fuel + 1, depth, before, s =>
    match s with
    | '"' :: rest => do
      let (key, rest) ← readString fuel rest
      match skipSpace rest with
      | ':' :: rest => do
        let (v, rest) ← readValue fuel depth (skipSpace rest)
        let members := setEntry (String.ofList key) v before
        match skipSpace rest with
        | '\x7d' :: rest => some (members, rest)
        | ',' :: rest => readMembers fuel depth members (skipSpace rest)
        | _ => none
      | _ => none
    | _ => none

end

/-- The value that a JSON text writes. Every reader takes at least one character, so the length of
the text bounds how deep the readers call one another. -/
def parse (text : String) : Option Value :=
  let s := text.toList
  match readValue (2 * s.length + 2) deepest (skipSpace s) with
  | some (v, rest) => if (skipSpace rest).isEmpty then some v else none
  | none => none

end Formulary.Json

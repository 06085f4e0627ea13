import Formulary.Toml.Scalar
import Formulary.Toml.Section

/-!
Reading TOML texts, in the version 1.0 of the language. Arrays and inline tables may stand inside
one another 79 deep, and a dotted key may have 79 parts.
-/

namespace Formulary.Toml

open Text Text.Reader

/-- One more than the deepest nesting and the longest dotted key. -/
def nestingLimit : Nat := 80

def isBareKeyChar (c : Char) : Bool :=
  ('a' ≤ c && c ≤ 'z') || ('A' ≤ c && c ≤ 'Z') || isDigit c || c = '_' || c = '-'

def keyPart : Reader String :=
  basicString <|> literalString <|> (do
    let cs ← run isBareKeyChar
    if cs.isEmpty then failure else pure (String.ofList cs))

/-- The parts of a key, with dots between them and blanks around those. -/
def keyParts : Nat → List Char → Option (List String × List Char)
  | 0, _ => none
  | fuel + 1, s => do
    let (part, s) ← keyPart (s.dropWhile isSpace)
    match s.dropWhile isSpace with
    | '.' :: rest => do
      let (parts, rest) ← keyParts fuel rest
      some (part :: parts, rest)
    | rest => some ([part], rest)

def key : Reader (List String) := do
  let parts ← fun s => keyParts (s.length + 1) s
  if parts.length < nestingLimit then pure parts else failure

/-- Blanks, line ends and comments between the elements of an array, perhaps none. -/
def skipFiller : Nat → List Char → List Char
  | 0, s => s
  | fuel + 1, s =>
    match s with
    | [] => []
    | c :: rest =>
      if isSpace c then skipFiller fuel rest
      else
        match lineEnd s with
        | some ((), rest) => skipFiller fuel rest
        | none =>
          match (do comment; lineOrTextEnd : Reader Unit) s with
          | some ((), rest) => skipFiller fuel rest
          | none => s

def scalar : Reader Value :=
  (.string <$> string) <|>
  (do exactText "true"; pure (.boolean true)) <|>
  (do exactText "false"; pure (.boolean false)) <|>
  (.moment <$> moment) <|>
  (.float <$> decimalFloat) <|>
  (.float <$> specialFloat) <|>
  (.integer <$> integer)

mutual

/-- A value inside `depth` others. -/
def readValue : Nat → Nat → List Char → Option (Value × List Char)
  | 0, _, _ => none
  | fuel + 1, depth, s =>
    match s with
    | '[' :: rest => do
      if nestingLimit ≤ depth + 1 then none
      let (elements, rest) ← readElements fuel (depth + 1) (skipFiller fuel rest)
      some (.array elements, rest)
    | '\x7b' :: rest => do
      if nestingLimit ≤ depth + 1 then none
      match rest.dropWhile isSpace with
      | '\x7d' :: rest => some (.table [], rest)
      | rest => do
        let (pairs, rest) ← readPairs fuel (depth + 1) rest
        let table ← inlineTable pairs
        some (table, rest)
    | _ => scalar s

/-- The elements of an array up to its closing bracket; a comma may follow the last. -/
def readElements : Nat → Nat → List Char → Option (List Value × List Char)
  | 0, _, _ => none
  | fuel + 1, depth, s =>
    match s with
    | ']' :: rest => some ([], rest)
    | _ => do
      let (v, rest) ← readValue fuel depth s
      match skipFiller fuel rest with
      | ']' :: rest => some ([v], rest)
      | ',' :: rest => do
        let (vs, rest) ← readElements fuel depth (skipFiller fuel rest)
        some (v :: vs, rest)
      | _ => none

/-- The pairs of an inline table up to its closing brace, all on one line. -/
def readPairs : Nat → Nat → List Char → Option (List Pair × List Char)
  | 0, _, _ => none
  | fuel + 1, depth, s => do
    let (path, rest) ← key s
    match rest with
    | '=' :: rest => do
      let (v, rest) ← readValue fuel depth (rest.dropWhile isSpace)
      match rest.dropWhile isSpace with
      | '\x7d' :: rest => some ([⟨path, v⟩], rest)
      | ',' :: rest => do
        let (pairs, rest) ← readPairs fuel depth rest
        some (⟨path, v⟩ :: pairs, rest)
      | _ => none
    | _ => none

end

def value : Reader Value := fun s => readValue (2 * s.length + 2) 0 s

/-- What may follow on a line: blanks, a comment, and the end of the line. -/
def lineRest : Reader Unit := do
  space
  let _ ← maybe comment
  lineOrTextEnd

def pairLine : Reader Pair := do
  let path ← key
  let _ ← oneOf ['=']
  space
  let v ← value
  lineRest
  pure ⟨path, v⟩

def header : Reader Header :=
  (do
    exactText "[["
    let path ← key
    exactText "]]"
    lineRest
    pure (.element path)) <|>
  (do
    exactText "["
    let path ← key
    exactText "]"
    lineRest
    pure (.table path))

/-- The lines of a text, as sections: the pairs in front of the first header, and then each header
with the pairs behind it. -/
def readLines : Nat → List Char → Option (List Pair × List (Header × List Pair))
  | 0, _ => none
  | fuel + 1, s =>
    match s.dropWhile isSpace with
    | [] => some ([], [])
    | '#' :: rest => do
      let ((), rest) ← (do comment; lineOrTextEnd : Reader Unit) ('#' :: rest)
      readLines fuel rest
    | '[' :: rest => do
      let (h, rest) ← header ('[' :: rest)
      let (pairs, sections) ← readLines fuel rest
      some ([], (h, pairs) :: sections)
    | s =>
      match lineEnd s with
      | some ((), rest) => readLines fuel rest
      | none => do
        let (pair, rest) ← pairLine s
        let (pairs, sections) ← readLines fuel rest
        some (pair :: pairs, sections)

/-- The table that a TOML text writes. A byte-order mark in front says nothing. -/
def parse (text : String) : Option (List (String × Value)) := do
  let s := match text.toList with
    | '\ufeff' :: rest => rest
    | s => s
  let (pairs, sections) ← readLines (s.length + 1) s
  document pairs sections

end Formulary.Toml

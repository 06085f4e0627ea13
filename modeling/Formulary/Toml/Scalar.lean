import Formulary.Number.Reading
import Formulary.Toml.Basic

/-!
Reading the scalars of TOML: strings in their four forms, numbers, and moments.
-/

namespace Formulary.Toml

open Text Text.Reader Number

/-! ## Characters -/

def isSpace (c : Char) : Bool := c = ' ' || c = '\t'

/-- A character that a string or a comment may hold: not a control character, a tab apart. -/
def isPrintable (c : Char) : Bool := c = '\t' || (0x20 ≤ c.toNat && c.toNat ≠ 0x7F)

/-- The quotation mark of a string that stands for itself. -/
def apostrophe : Char := '\x27'

def space : Reader Unit := discard (run isSpace)

def lineEnd : Reader Unit := fun s =>
  match s with
  | '\n' :: rest => some ((), rest)
  | '\r' :: '\n' :: rest => some ((), rest)
  | _ => none

def lineOrTextEnd : Reader Unit := fun s => if s.isEmpty then some ((), []) else lineEnd s

def comment : Reader Unit := do
  let _ ← oneOf ['#']
  discard (run isPrintable)

/-! ## Strings -/

def hexNumber (n : Nat) : List Char → Option Nat
  | [] => some n
  | c :: rest => (hexValue? c).bind fun d => hexNumber (n * 16 + d) rest

/-- The character of a code point written in `width` hexadecimal digits. -/
def codePoint (width : Nat) : Reader Char := fun s =>
  let digits := s.take width
  if digits.length = width then
    match hexNumber 0 digits with
    | some n => if n.isValidChar then some (Char.ofNat n, s.drop width) else none
    | none => none
  else none

def escapeLetter? : Char → Option Char
  | 'b' => some '\x08'
  | 't' => some '\t'
  | 'n' => some '\n'
  | 'f' => some '\x0c'
  | 'r' => some '\r'
  | '"' => some '"'
  | '\\' => some '\\'
  | _ => none

/-- What stands behind a backslash. -/
def escape : Reader Char := fun s =>
  match s with
  | 'u' :: rest => codePoint 4 rest
  | 'U' :: rest => codePoint 8 rest
  | c :: rest => (escapeLetter? c).map (·, rest)
  | [] => none

def skipLines : Nat → List Char → List Char
  | 0, s => s
  | fuel + 1, s =>
    match s with
    | '\n' :: rest => skipLines fuel rest
    | '\r' :: '\n' :: rest => skipLines fuel rest
    | c :: rest => if isSpace c then skipLines fuel rest else s
    | [] => []

/-- A backslash at the end of a line takes away the line end and all white space behind it. -/
def continuation : Reader Unit := do
  space
  lineEnd
  fun s => some ((), skipLines s.length s)

/-- The rest of a string that ends at its line. -/
def basicBody : Nat → List Char → Option (List Char × List Char)
  | 0, _ => none
  | _ + 1, [] => none
  | fuel + 1, c :: rest =>
    if c = '"' then some ([], rest)
    else if c = '\\' then do
      let (c, rest) ← escape rest
      let (s, rest) ← basicBody fuel rest
      some (c :: s, rest)
    else if isPrintable c then do
      let (s, rest) ← basicBody fuel rest
      some (c :: s, rest)
    else none

/-- The end of a string of several lines at a run of quotes: three close it, and as many as two
before them belong to it. Fewer than three are text. -/
def closingQuotes (quote : Char) (s : List Char) : Nat × List Char :=
  ((s.takeWhile (· == quote)).length, s.dropWhile (· == quote))

/-- The rest of a string of several lines that knows escapes. -/
def basicLines : Nat → List Char → Option (List Char × List Char)
  | 0, _ => none
  | _ + 1, [] => none
  | fuel + 1, c :: rest =>
    if c = '"' then
      let (count, behind) := closingQuotes '"' (c :: rest)
      if count < 3 then do
        let (s, behind) ← basicLines fuel behind
        some (List.replicate count '"' ++ s, behind)
      else if count ≤ 5 then some (List.replicate (count - 3) '"', behind)
      else none
    else if c = '\\' then
      match continuation rest with
      | some ((), rest) => basicLines fuel rest
      | none => do
        let (c, rest) ← escape rest
        let (s, rest) ← basicLines fuel rest
        some (c :: s, rest)
    else
      match lineEnd (c :: rest) with
      | some ((), rest) => do
        let (s, rest) ← basicLines fuel rest
        some ('\n' :: s, rest)
      | none =>
        if isPrintable c then do
          let (s, rest) ← basicLines fuel rest
          some (c :: s, rest)
        else none

def literalLines : Nat → List Char → Option (List Char × List Char)
  | 0, _ => none
  | _ + 1, [] => none
  | fuel + 1, c :: rest =>
    if c = apostrophe then
      let (count, behind) := closingQuotes apostrophe (c :: rest)
      if count < 3 then do
        let (s, behind) ← literalLines fuel behind
        some (List.replicate count apostrophe ++ s, behind)
      else if count ≤ 5 then some (List.replicate (count - 3) apostrophe, behind)
      else none
    else
      match lineEnd (c :: rest) with
      | some ((), rest) => do
        let (s, rest) ← literalLines fuel rest
        some ('\n' :: s, rest)
      | none =>
        if isPrintable c then do
          let (s, rest) ← literalLines fuel rest
          some (c :: s, rest)
        else none

def basicString : Reader String := do
  let _ ← oneOf ['"']
  fun s => (basicBody (s.length + 1) s).map fun r => (String.ofList r.1, r.2)

def literalString : Reader String := do
  let _ ← oneOf [apostrophe]
  let s ← run fun c => isPrintable c && c != apostrophe
  let _ ← oneOf [apostrophe]
  pure (String.ofList s)

/-- A string in its four forms. A line end right behind three opening quotes is no part of it. -/
def string : Reader String :=
  (do
    exactText "\"\"\""
    let _ ← maybe lineEnd
    fun s => (basicLines (s.length + 1) s).map fun r => (String.ofList r.1, r.2)) <|>
  (do
    exactText (String.ofList [apostrophe, apostrophe, apostrophe])
    let _ ← maybe lineEnd
    fun s => (literalLines (s.length + 1) s).map fun r => (String.ofList r.1, r.2)) <|>
  basicString <|> literalString

/-! ## Numbers -/

/-- Digits of a kind, with single underscores between them, and none at either end. -/
def grouped (isDigit : Char → Bool) : Reader (List Char)
  | [] => none
  | [c] => if isDigit c then some ([c], []) else none
  | c :: '_' :: rest =>
    if isDigit c then (grouped isDigit rest).map fun r => (c :: r.1, r.2) else none
  | c :: d :: rest =>
    if isDigit c then
      if isDigit d then (grouped isDigit (d :: rest)).map fun r => (c :: r.1, r.2)
      else some ([c], d :: rest)
    else none

def groupedDigits : Reader (List Char) := grouped isDigit

/-- A sign, if there is one: whether it is a minus. -/
def sign : Reader Bool := do
  let c ← maybe (oneOf ['+', '-'])
  pure (c = some '-')

/-- Grouped digits without a needless zero in front. -/
def wholePart : Reader (List Char) := fun s =>
  match s with
  | '0' :: rest => some (['0'], rest)
  | _ => groupedDigits s

def floatExponent : Reader Int := do
  let _ ← oneOf ['e', 'E']
  let negative ← sign
  let ds ← groupedDigits
  pure (if negative then -(digitsValue ds : Int) else digitsValue ds)

/-- A number with a fraction, an exponent or both. One too large above zero is refused. -/
def decimalFloat : Reader Binary64 := do
  let negative ← sign
  let before ← wholePart
  let after ← maybe (do
    let _ ← oneOf ['.']
    groupedDigits)
  let exponent ← if after.isSome then maybe floatExponent else some <$> floatExponent
  let fraction := after.getD []
  let x : Binary64 :=
    .ofDecimal negative (digitsValue (before ++ fraction)) (exponent.getD 0 - (fraction.length : Int))
  if x = .infinity false then failure else pure x

def specialFloat : Reader Binary64 := do
  let negative ← sign
  (do exactText "inf"; pure (.infinity negative)) <|> (do exactText "nan"; pure .nan)

def isInteger64 (n : Int) : Bool := Int64.minValue.toInt ≤ n && n ≤ Int64.maxValue.toInt

def integerOf (n : Int) : Reader Int := if isInteger64 n then pure n else failure

/-- A whole number without a sign, in a base that a mark names. -/
def basedInteger (mark : String) (base : Nat) : Reader Int := do
  exactText mark
  let isDigitOf (c : Char) : Bool := (hexValue? c).any (· < base)
  let ds ← grouped isDigitOf
  integerOf (ds.foldl (fun n c => n * base + (hexValue? c).getD 0) (0 : Nat))

def decimalInteger : Reader Int := do
  let negative ← sign
  let ds ← wholePart
  integerOf (if negative then -(digitsValue ds : Int) else digitsValue ds)

/-- A whole number. -/
def integer : Reader Int :=
  basedInteger "0x" 16 <|> basedInteger "0o" 8 <|> basedInteger "0b" 2 <|> decimalInteger

/-! ## Moments -/

/-- Exactly `width` digits that write a number between two bounds. -/
def within (width lo hi : Nat) : Reader Nat := do
  let n ← exactly width
  if lo ≤ n ∧ n ≤ hi then pure n else failure

def monthLength (year month : Nat) : Nat :=
  match month with
  | 2 => if year % 4 = 0 ∧ (year % 100 ≠ 0 ∨ year % 400 = 0) then 29 else 28
  | 4 | 6 | 9 | 11 => 30
  | _ => 31

def localDate : Reader LocalDate := do
  let year ← exactly 4
  let _ ← oneOf ['-']
  let month ← within 2 1 12
  let _ ← oneOf ['-']
  let day ← within 2 1 31
  if day ≤ monthLength year month then pure ⟨year, month, day⟩ else failure

/-- A time of day; a minute may have 61 seconds. -/
def localTime : Reader LocalTime := do
  let hour ← within 2 0 23
  let _ ← oneOf [':']
  let minute ← within 2 0 59
  let _ ← oneOf [':']
  let second ← within 2 0 60
  let nanosecond ← fraction
  pure ⟨hour, minute, second, nanosecond⟩

def momentOffset : Reader Offset :=
  (do let _ ← oneOf ['Z', 'z']; pure .universal) <|>
  (do
    let c ← oneOf ['+', '-']
    let hours ← within 2 0 23
    let _ ← oneOf [':']
    let minutes ← within 2 0 59
    let n : Int := (hours * 60 + minutes : Nat)
    pure (.minutes (if c = '-' then -n else n)))

def moment : Reader Moment :=
  (do
    let date ← localDate
    let time ← maybe (do
      let _ ← oneOf ['T', 't', ' ']
      let time ← localTime
      let offset ← maybe momentOffset
      pure (time, offset))
    pure ⟨some date, time.map (·.1), time.bind (·.2)⟩) <|>
  (do
    let time ← localTime
    pure ⟨none, some time, none⟩)

end Formulary.Toml

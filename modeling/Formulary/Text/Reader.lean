import Formulary.Text.Blank
import Formulary.Text.Numeral

/-!
Readers of the front of a text: a reader gives what it read and the rest of the text, or refuses. An
alternative starts again where the first one started.
-/

namespace Formulary.Text

/-- A reader of the front of a text. -/
abbrev Reader := StateT (List Char) Option

namespace Reader

def satisfy (p : Char → Bool) : Reader Char := fun s =>
  match s with
  | c :: rest => if p c then some (c, rest) else none
  | [] => none

def oneOf (allowed : List Char) : Reader Char := satisfy fun c => c ∈ allowed

def exactText (text : String) : Reader Unit := fun s =>
  let chars := text.toList
  if chars.isPrefixOf s then some ((), s.drop chars.length) else none

/-- The longest run of characters for which `p` holds, perhaps none. -/
def run (p : Char → Bool) : Reader (List Char) := fun s => some (s.takeWhile p, s.dropWhile p)

/-- What a reader reads, or nothing where it refuses. -/
def maybe {α : Type} (r : Reader α) : Reader (Option α) := fun s =>
  match r s with
  | some (a, rest) => some (some a, rest)
  | none => some (none, s)

def exactly (width : Nat) : Reader Nat := fun s =>
  let (digits, rest) := takeDigits width s
  if digits.length = width then some (digitsValue digits, rest) else none

/-- One digit or more, at most `width`. -/
def upTo (width : Nat) : Reader Nat := fun s =>
  let (digits, rest) := takeDigits width s
  if digits.isEmpty then none else some (digitsValue digits, rest)

def digits : Reader (List Char) := fun s =>
  let (digits, rest) := spanDigits s
  if digits.isEmpty then none else some (digits, rest)

def blanks : Reader Unit := fun s => some ((), s.dropWhile isBlank)

/-- The nanoseconds that the digits behind a point write; those after the ninth say nothing. -/
def nanoseconds (digits : List Char) : Nat :=
  digitsValue (digits.take 9) * Nat.pow 10 (9 - (digits.take 9).length)

/-- A point and digits, or nothing: a fraction of a second, in nanoseconds. -/
def fraction : Reader Nat := fun s =>
  match s with
  | '.' :: rest => (nanoseconds <$> digits) rest
  | _ => some (0, s)

/-- What a reader makes of a whole text. -/
def whole {α : Type} (r : Reader α) (s : List Char) : Option α :=
  match r s with
  | some (a, []) => some a
  | _ => none

end Reader

end Formulary.Text

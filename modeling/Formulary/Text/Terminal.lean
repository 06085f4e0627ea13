/-!
Control sequences of terminals. A text for a terminal may hold sequences that are not shown and
change how the characters behind them are shown; `plain` is such a text as something else than a
terminal gets it. A sequence that does not end takes in what follows, up to where another starts. A
character of layout inside a sequence is shown, and so is the text right behind it; the sequence
goes on at the next control character.
-/

namespace Formulary.Text.Terminal

def escape : Char := '\x1b'

/-- A text in bold, and what follows as it was. -/
def bold (s : String) : String :=
  String.ofList (escape :: ['[', '1', 'm'] ++ s.toList ++ escape :: ['[', '0', 'm'])

/-- Where a character of a text stands. -/
inductive Place where
  | shown
  | escaped
  /-- In a sequence that started with an escape and a mark. -/
  | marked
  | parameters
  /-- In a text for the system, which a bell ends. -/
  | system
  | deviceStart
  | deviceParameters
  | deviceMarks
  /-- In a text for a device, or in any other text that ends as such a text ends. -/
  | device
deriving DecidableEq, Repr

/-- Controls that lay out a text: they are kept wherever they do not belong to another text. -/
def isLayout (c : Char) : Bool := c = '\t' || c = '\n' || c = '\x0c' || c = '\r'

def isShown (c : Char) : Bool := isLayout c || (0x20 ≤ c.toNat && c.toNat ≠ 0x7F)

def isMark (c : Char) : Bool := 0x20 ≤ c.toNat && c.toNat ≤ 0x2F

def isParameter (c : Char) : Bool := c.isDigit || c = ';'

/-- A character that tells parameters of another kind. -/
def isPrivate (c : Char) : Bool := 0x3C ≤ c.toNat && c.toNat ≤ 0x3F

def endsMarks (c : Char) : Bool := 0x30 ≤ c.toNat && c.toNat ≤ 0x7E

def endsParameters (c : Char) : Bool := 0x40 ≤ c.toNat && c.toNat ≤ 0x7E

/-- A character that ends a text for a device: the octet of the end is among its octets. -/
def endsDevice (c : Char) : Bool := (String.singleton c).toUTF8.toList.contains 0x9C

def Place.next (place : Place) (c : Char) : Place × Bool :=
  if c = escape then (.escaped, false)
  else if c = '\x18' ∨ c = '\x1a' then (.shown, false)
  else
    match place with
    | shown => (.shown, isShown c)
    | escaped =>
      if isMark c then (.marked, false)
      else if c = '[' then (.parameters, false)
      else if c = ']' then (.system, false)
      else if c = 'P' then (.deviceStart, false)
      else if c ∈ ['X', '^', '_'] then (.device, false)
      else (if endsMarks c then .shown else .escaped, isLayout c)
    | marked => (if endsMarks c then .shown else .marked, isLayout c)
    | parameters => (if endsParameters c then .shown else .parameters, isLayout c)
    | system => (if c = '\x07' then .shown else .system, false)
    | deviceStart =>
      (if isMark c then .deviceMarks
        else if isParameter c || isPrivate c then .deviceParameters
        else if endsMarks c then .device else .deviceStart, false)
    | deviceParameters =>
      (if isMark c then .deviceMarks
        else if isParameter c then .deviceParameters
        else if endsMarks c then .device else .deviceParameters, false)
    | deviceMarks => (if endsMarks c then .device else .deviceMarks, false)
    | device => (if endsDevice c then .shown else .device, false)

/-- The characters that are shown of a text whose first character stands at a place. While
`running`, the character before was shown, and what can be shown is; a character beyond ASCII then
ends whatever sequence was open. -/
def shownFrom (place : Place) (running : Bool) : List Char → List Char
  | [] => []
  | c :: rest =>
    if running && isShown c then
      c :: shownFrom (if c.toNat < 0x80 then place else .shown) true rest
    else
      let (next, kept) := place.next c
      if kept then c :: shownFrom next true rest else shownFrom next false rest

/-- A text without its control sequences. -/
def plain (s : String) : String := String.ofList (shownFrom .shown false s.toList)

end Formulary.Text.Terminal

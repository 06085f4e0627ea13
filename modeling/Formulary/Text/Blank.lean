/-!
White space as the Unicode property White_Space has it: 25 code points in ten ranges, which has not
changed since version 6.3. Trimming, blank texts and words are all told by this one property.
-/

namespace Formulary.Text

/-- Closed ranges of the code points with the property White_Space, ascending and apart. -/
def blankRanges : List (Nat × Nat) :=
  [(0x09, 0x0D), (0x20, 0x20), (0x85, 0x85), (0xA0, 0xA0), (0x1680, 0x1680), (0x2000, 0x200A),
   (0x2028, 0x2029), (0x202F, 0x202F), (0x205F, 0x205F), (0x3000, 0x3000)]

/-- White space in the sense of Unicode. -/
def isBlank (c : Char) : Bool :=
  blankRanges.any fun r => r.1 ≤ c.toNat && c.toNat ≤ r.2

def trimChars (s : List Char) : List Char :=
  ((s.dropWhile isBlank).reverse.dropWhile isBlank).reverse

def trim (s : String) : String := String.ofList (trimChars s.toList)

/-- Nothing but white space; the empty text is blank. -/
def allBlank (s : String) : Bool := s.toList.all isBlank

/-- The word at the front of a text, which is empty where the text starts with white space, and the
words after it. -/
def wordsFrom : List Char → List Char × List (List Char)
  | [] => ([], [])
  | c :: s =>
    let (word, rest) := wordsFrom s
    if isBlank c then ([], if word.isEmpty then rest else word :: rest) else (c :: word, rest)

/-- The words of a text: its maximal runs of characters that are not white space. -/
def words (s : String) : List String :=
  let (word, rest) := wordsFrom s.toList
  (if word.isEmpty then rest else word :: rest).map String.ofList

end Formulary.Text

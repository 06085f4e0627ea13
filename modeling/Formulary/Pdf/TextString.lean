/-!
Text strings of a PDF. ASCII text stands for itself; any other text is written in 16-bit units, high
octet first, behind the mark FE FF. A reader tells the two apart by the mark.
-/

namespace Formulary.Pdf

/-- The 16-bit units of a character: one, or a pair of surrogates from U+10000 on. -/
def units (c : Char) : List Nat :=
  let n := c.toNat
  if n < 0x10000 then [n]
  else [0xD800 + (n - 0x10000) / 0x400, 0xDC00 + (n - 0x10000) % 0x400]

def unitOctets (unit : Nat) : List UInt8 := [UInt8.ofNat (unit / 256), UInt8.ofNat (unit % 256)]

def isAscii (c : Char) : Bool := c.toNat < 128

/-- The octets of a text string. -/
def textString (s : String) : List UInt8 :=
  if s.toList.all isAscii then s.toList.map fun c => UInt8.ofNat c.toNat
  else 0xFE :: 0xFF :: (s.toList.flatMap units).flatMap unitOctets

/-- What text in 16-bit units starts with. -/
def mark : List UInt8 := [0xFE, 0xFF]

def readUnits : List UInt8 → Option (List Nat)
  | [] => some []
  | [_] => none
  | high :: low :: rest => (readUnits rest).map ((high.toNat * 256 + low.toNat) :: ·)

/-- The characters that 16-bit units write. A high surrogate has a low one behind it, and no low
surrogate stands without a high one. -/
def readChars : List Nat → Option (List Char)
  | [] => some []
  | unit :: rest =>
    if 0xD800 ≤ unit ∧ unit < 0xDC00 then
      match rest with
      | [] => none
      | low :: rest =>
        if 0xDC00 ≤ low ∧ low < 0xE000 then
          (readChars rest).map
            (Char.ofNat (0x10000 + (unit - 0xD800) * 0x400 + (low - 0xDC00)) :: ·)
        else none
    else if 0xDC00 ≤ unit ∧ unit < 0xE000 then none
    else (readChars rest).map (Char.ofNat unit :: ·)

def readAscii (octets : List UInt8) : Option (List Char) :=
  octets.mapM fun octet => if octet < 128 then some (Char.ofNat octet.toNat) else none

/-- The text of a text string: in 16-bit units behind the mark, else in ASCII. -/
def readTextString (octets : List UInt8) : Option String :=
  if mark.isPrefixOf octets then
    ((readUnits (octets.drop mark.length)).bind readChars).map String.ofList
  else (readAscii octets).map String.ofList

end Formulary.Pdf

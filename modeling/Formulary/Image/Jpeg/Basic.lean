import Formulary.Text.Quoted

/-!
JPEG pictures: the markers between their segments, and what may be wrong with a segment.
-/

namespace Formulary.Image.Jpeg

/-! ## Markers -/

/-- A marker, by the octet behind its first. -/
inductive Marker where
  | frame (kind : Nat)
  | huffmanTables
  | arithmeticTables
  | lines
  | scan
  | quantizationTables
  | restartInterval
  | ending
  | application (n : Nat)
  | other
deriving DecidableEq, Repr

def Marker.ofOctet? (b : UInt8) : Option Marker :=
  let n := b.toNat
  if n = 0xC4 then some huffmanTables
  else if n = 0xCC then some arithmeticTables
  else if n = 0xC8 then none
  else if 0xC0 ≤ n && n ≤ 0xCF then some (frame (n - 0xC0))
  else if 0xD0 ≤ n && n ≤ 0xD8 then some other
  else if n = 0xD9 then some ending
  else if n = 0xDA then some scan
  else if n = 0xDB then some quantizationTables
  else if n = 0xDC then some lines
  else if n = 0xDD then some restartInterval
  else if 0xE0 ≤ n && n ≤ 0xEF then some (application (n - 0xE0))
  else if n = 0xFE then some other
  else none

/-! ## Faults -/

inductive Fault where
  /-- There are not as many octets as are read next. -/
  | ends (expected found : Nat)
  /-- The first two octets, as a number, are not those of a picture. -/
  | start (n : Nat)
  | noSides
  | format (reason : String)
  | frame (reason : String)
  | scan (reason : String)
  | huffman (reason : String)
  | quantization (reason : String)
  | tooLarge
deriving DecidableEq, Repr

def hexNumeral (n : Nat) : String := String.ofList ((Nat.toDigits 16 n).map Char.toUpper)

def Fault.formatText : Fault → String
  | ends expected found =>
    "I/O errors Not enough bytes, expected " ++ toString expected ++ " but found " ++
      toString found ++ "\n"
  | start n => "Error parsing image. Illegal start bytes:" ++ hexNumeral n
  | noSides => "Image width or height is set to zero, cannot continue"
  | format reason => Text.quoted reason
  | frame reason => "Error parsing SOF Segment. Reason:" ++ reason
  | scan reason => "Error parsing SOS Segment. Reason:" ++ reason
  | huffman reason => "Error decoding huffman values: " ++ reason
  | quantization reason => "Error parsing DQT segment. Reason:" ++ reason
  | tooLarge => "Memory limit exceeded"

def Fault.message : Fault → String
  | tooLarge => Fault.formatText tooLarge
  | fault => "Format error decoding Jpeg: " ++ fault.formatText

end Formulary.Image.Jpeg
